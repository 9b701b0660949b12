/-!
# Sets of code points

A character property is a list of closed ranges of code points, in ascending order and apart.
`CodeRanges.start?` finds the range that holds a code point, and `CodeRanges.contains` tells
whether there is one. What it finds is there (`CodeRanges.exists_mem_of_contains`), and since the
ranges are in order it misses none (`CodeRanges.contains_of_mem`).
-/

namespace Diagnostics

/-- Closed ranges of code points, in ascending order and apart. -/
abbrev CodeRanges := List (Nat × Nat)

namespace CodeRanges

/-- The first member of the range that holds `n`. The search stops at the first range that does
not end before `n`. -/
def start? : CodeRanges → Nat → Option Nat
  | [], _ => none
  | (first, last) :: rest, n =>
    if last < n then start? rest n else if first ≤ n then some first else none

/-- Whether `n` lies in one of the ranges. -/
def contains (ranges : CodeRanges) (n : Nat) : Bool :=
  (ranges.start? n).isSome

/-- A code point that a list of ranges contains lies in one of them. -/
theorem exists_mem_of_contains {ranges : CodeRanges} {n : Nat} (h : ranges.contains n = true) :
    ∃ range ∈ ranges, range.1 ≤ n ∧ n ≤ range.2 := by
  induction ranges with
  | nil => simp [contains, start?] at h
  | cons range rest ih =>
    obtain ⟨first, last⟩ := range
    simp only [contains, start?] at h
    split at h
    · obtain ⟨range, hmem, hle⟩ := ih h
      exact ⟨range, List.mem_cons_of_mem _ hmem, hle⟩
    · split at h
      · exact ⟨(first, last), List.mem_cons_self, by assumption, by omega⟩
      · simp at h

/-- Of ascending ranges that are apart, the search finds the one that holds a code point. -/
theorem contains_of_mem {ranges : CodeRanges}
    (hapart : ranges.Pairwise fun range range' => range.2 < range'.1) {range : Nat × Nat}
    (hrange : range ∈ ranges) {n : Nat} (hfirst : range.1 ≤ n) (hlast : n ≤ range.2) :
    ranges.contains n = true := by
  induction ranges with
  | nil => exact absurd hrange List.not_mem_nil
  | cons range' ranges ih =>
    obtain ⟨hrange', hapart⟩ := List.pairwise_cons.1 hapart
    rw [contains, start?]
    rcases List.mem_cons.1 hrange with rfl | hrange
    · rw [if_neg (Nat.not_lt_of_le hlast), if_pos hfirst]
      rfl
    · have hbehind := hrange' range hrange
      rw [if_pos (by omega)]
      exact ih hapart hrange

end CodeRanges

end Diagnostics
