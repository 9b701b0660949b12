import Diagnostics.Pattern.Cut

/-!
# Searching a text for a pattern

A search goes through a text from left to right. `Scan` is its state, `Scan.next?` finds the next
match, and `Pattern.findAll` all of them. Matches do not overlap. After an empty match the search
first looks for a match that begins at the same place and is not empty, so every step makes progress
(`Scan.left_lt_of_next?_eq_some`). The pattern without fragments matches nowhere.
-/

namespace Diagnostics

/-- A place in a text where a pattern matches, with the piece of the text for each fragment. -/
structure Match where
  /-- The number of characters before the match. -/
  start : Nat
  /-- The pieces that the fragments match, in order. -/
  groups : List Text
deriving DecidableEq, Repr

namespace Match

/-- The text that the pattern matches. -/
def text (m : Match) : Text :=
  m.groups.flatten

/-- The number of characters before the end of the match. -/
def stop (m : Match) : Nat :=
  m.start + m.text.length

end Match

namespace Pattern

/-- The first place at or after a given one where a cut ends at an allowed place, with that cut. -/
def find? (isAllowed : Cursor → Bool) (pattern : Pattern) (offset : Nat) (before : Option Char) :
    Text → Option (Match × Cursor)
  | [] => (pattern.cut? isAllowed ⟨offset, before, []⟩).map fun (groups, e) => (⟨offset, groups⟩, e)
  | c :: rest =>
    match pattern.cut? isAllowed ⟨offset, before, c :: rest⟩ with
    | some (groups, e) => some (⟨offset, groups⟩, e)
    | none => find? isAllowed pattern (offset + 1) (some c) rest

/-- A match that is found begins after some piece of the text and is followed by the place found. -/
theorem passes_of_find?_eq_some {isAllowed : Cursor → Bool} {pattern : Pattern} {c e : Cursor}
    {m : Match} (h : pattern.find? isAllowed c.offset c.before c.rest = some (m, e)) :
    ∃ skipped d, c.Passes skipped d ∧ d.Passes m.text e ∧ m.start = d.offset ∧
      isAllowed e = true := by
  obtain ⟨offset, before, rest⟩ := c
  induction rest generalizing offset before with
  | nil =>
    obtain ⟨⟨groups, e'⟩, hcut, heq⟩ := Option.map_eq_some_iff.1 h
    obtain ⟨rfl, rfl⟩ : (⟨offset, groups⟩ : Match) = m ∧ e' = e := by simpa using heq
    obtain ⟨hpass, hallowed⟩ := passes_of_cut?_eq_some hcut
    exact ⟨[], _, Cursor.passes_nil _, hpass, rfl, hallowed⟩
  | cons x rest ih =>
    simp only [find?] at h
    split at h
    · rename_i groups e' hcut
      obtain ⟨rfl, rfl⟩ : (⟨offset, groups⟩ : Match) = m ∧ e' = e := by simpa using h
      obtain ⟨hpass, hallowed⟩ := passes_of_cut?_eq_some hcut
      exact ⟨[], _, Cursor.passes_nil _, hpass, rfl, hallowed⟩
    · -- No cut here, so the match begins after this character.
      obtain ⟨skipped, d, hskip, hrest⟩ := ih (offset + 1) (some x) h
      have hstep : Cursor.Passes ⟨offset, before, x :: rest⟩ [x] ⟨offset + 1, some x, rest⟩ :=
        ⟨rfl, by simp [Cursor.skip]⟩
      exact ⟨x :: skipped, d, hstep.trans hskip, hrest⟩

end Pattern

/-- The state of a search. -/
structure Scan where
  /-- The place where the next match is sought. -/
  cursor : Cursor
  /-- The last match was empty and at this place, so the next one may not end here. -/
  isSpent : Bool := false
deriving DecidableEq, Repr

namespace Scan

/-- The search at the start of a text. -/
def start (t : Text) : Scan where
  cursor := .start t

/-- Whether the next match may end at the place. -/
def allows (s : Scan) (c : Cursor) : Bool :=
  !(s.isSpent && c.offset == s.cursor.offset)

/-- The next match, and the search after it. -/
def next? (pattern : Pattern) (s : Scan) : Option (Match × Scan) :=
  if pattern.isEmpty then none
  else (pattern.find? s.allows s.cursor.offset s.cursor.before s.cursor.rest).map fun (m, e) =>
    (m, ⟨e, m.text.isEmpty⟩)

/-- A bound on the number of matches that are left. -/
def left (s : Scan) : Nat :=
  2 * s.cursor.rest.length + if s.isSpent then 0 else 1

/-- The next match begins after some piece of the text and is followed by the place where the search
goes on, which is another one if the search was spent and the match is empty. -/
theorem passes_of_next?_eq_some {pattern : Pattern} {s s' : Scan} {m : Match}
    (h : s.next? pattern = some (m, s')) :
    ∃ skipped d, s.cursor.Passes skipped d ∧ d.Passes m.text s'.cursor ∧ m.start = d.offset ∧
      s'.isSpent = m.text.isEmpty ∧ s.allows s'.cursor = true := by
  unfold next? at h
  split at h
  · simp at h
  · obtain ⟨⟨m', e⟩, hfind, heq⟩ := Option.map_eq_some_iff.1 h
    obtain ⟨rfl, rfl⟩ : m' = m ∧ (⟨e, m'.text.isEmpty⟩ : Scan) = s' := by simpa using heq
    obtain ⟨skipped, d, hskip, hpass, hstart, hallowed⟩ := Pattern.passes_of_find?_eq_some hfind
    exact ⟨skipped, d, hskip, hpass, hstart, rfl, hallowed⟩

/-- Every match leaves less to find. -/
theorem left_lt_of_next?_eq_some {pattern : Pattern} {s s' : Scan} {m : Match}
    (h : s.next? pattern = some (m, s')) : s'.left < s.left := by
  obtain ⟨skipped, d, hskip, hpass, -, hspent, hallowed⟩ := passes_of_next?_eq_some h
  have h₁ := hskip.length_rest
  have h₂ := hpass.length_rest
  have h₃ := hskip.offset_eq
  have h₄ := hpass.offset_eq
  simp only [left, hspent]
  cases htext : m.text with
  | nil =>
    simp only [htext, List.length_nil] at h₂ h₄
    cases hs : s.isSpent with
    | false => simp; omega
    | true =>
      -- The search was spent, so the match lies after a piece that is not empty.
      simp only [allows, hs, Bool.true_and, Bool.not_eq_true', beq_eq_false_iff_ne] at hallowed
      simp; omega
  | cons c t =>
    -- A match with text leaves a shorter text, whatever the search was.
    simp only [htext, List.length_cons] at h₂
    simp; split <;> omega

/-- All matches that are left. -/
def all (pattern : Pattern) (s : Scan) : List Match :=
  match h : s.next? pattern with
  | none => []
  | some (m, s') =>
    have := left_lt_of_next?_eq_some h
    m :: all pattern s'
termination_by s.left

end Scan

/-- All matches of the pattern in the text, from left to right. -/
def Pattern.findAll (pattern : Pattern) (t : Text) : List Match :=
  (Scan.start t).all pattern

end Diagnostics
