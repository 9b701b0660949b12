import Diagnostics.Pattern.Basic
import Diagnostics.Pattern.Cursor
import Diagnostics.Text.Caseless

/-!
# How a pattern matches at a place

A fragment matches pieces of the text of several lengths. `Fragment.stops` lists the places where
such a piece may end, the preferred one first, and `Fragment.tryStops` tries them in that order
until the rest of the pattern matches too (`tryStops_eq_findSome?`). A pattern so cuts the text at a
place into one piece for each fragment: `Pattern.cut?` finds the first such cut, where an earlier
fragment's preference comes before a later one's.
-/

namespace Diagnostics

/-- The places after one, two, three and so on characters of a class, as far as they reach. -/
def runStops (chars : CharClass) (offset : Nat) : Text → List Cursor
  | [] => []
  | c :: rest =>
    if chars.contains c then ⟨offset + 1, some c, rest⟩ :: runStops chars (offset + 1) rest else []

/-- Tries the places of `runStops`, the nearest first. -/
def tryNearest {α : Type} (chars : CharClass) (next : Cursor → Option α) (offset : Nat) :
    Text → Option α
  | [] => none
  | c :: rest =>
    if chars.contains c then
      match next ⟨offset + 1, some c, rest⟩ with
      | some a => some a
      | none => tryNearest chars next (offset + 1) rest
    else none

/-- Tries the places of `runStops`, the farthest first. -/
def tryFarthest {α : Type} (chars : CharClass) (next : Cursor → Option α) (offset : Nat) :
    Text → Option α
  | [] => none
  | c :: rest =>
    if chars.contains c then
      match tryFarthest chars next (offset + 1) rest with
      | some a => some a
      | none => next ⟨offset + 1, some c, rest⟩
    else none

/-- The nearest places are tried first. -/
theorem tryNearest_eq_findSome? {α : Type} (chars : CharClass) (next : Cursor → Option α)
    (offset : Nat) (t : Text) :
    tryNearest chars next offset t = (runStops chars offset t).findSome? next := by
  induction t generalizing offset with
  | nil => rfl
  | cons c rest ih =>
    simp only [tryNearest, runStops, ih]
    split
    · rw [List.findSome?_cons]
      split <;> simp_all
    · rfl

/-- The farthest places are tried first. -/
theorem tryFarthest_eq_findSome? {α : Type} (chars : CharClass) (next : Cursor → Option α)
    (offset : Nat) (t : Text) :
    tryFarthest chars next offset t = (runStops chars offset t).reverse.findSome? next := by
  induction t generalizing offset with
  | nil => rfl
  | cons c rest ih =>
    simp only [tryFarthest, runStops, ih]
    split
    · rw [List.reverse_cons, List.findSome?_append]
      cases (runStops chars (offset + 1) rest).reverse.findSome? next <;> simp
    · rfl

namespace Fragment

/-- The places after each of the words that stands at `c` in any case, in the order of the words. -/
def wordStops (choices : List Text) (c : Cursor) : List Cursor :=
  choices.filterMap fun word =>
    if word.startsCaseless c.rest then some (c.skip (c.rest.take word.length)) else none

/-- The places where a piece that begins at `c` and matches the fragment may end, the preferred one
first. -/
def stops : Fragment → Cursor → List Cursor
  | run chars mayBeEmpty lazy, c =>
    let nearestFirst := (if mayBeEmpty then [c] else []) ++ runStops chars c.offset c.rest
    if lazy then nearestFirst else nearestFirst.reverse
  | word choices, c =>
    if c.isWordBoundary then (wordStops choices c).filter Cursor.isWordBoundary else []
  | literal text, c => if text.isPrefixOf c.rest then [c.skip text] else []

/-- The first result of `next` on the places where a piece that begins at `c` may end. -/
def tryStops {α : Type} (fragment : Fragment) (next : Cursor → Option α) (c : Cursor) : Option α :=
  match fragment with
  | run chars mayBeEmpty true =>
    (if mayBeEmpty then next c else none).or (tryNearest chars next c.offset c.rest)
  | run chars mayBeEmpty false =>
    (tryFarthest chars next c.offset c.rest).or (if mayBeEmpty then next c else none)
  | word choices => (stops (word choices) c).findSome? next
  | literal text => if text.isPrefixOf c.rest then next (c.skip text) else none

/-- The places are tried in the order of `stops`. -/
theorem tryStops_eq_findSome? {α : Type} (fragment : Fragment) (next : Cursor → Option α)
    (c : Cursor) : fragment.tryStops next c = (fragment.stops c).findSome? next := by
  unfold tryStops
  split
  · rename_i chars mayBeEmpty
    cases mayBeEmpty <;> simp [stops, tryNearest_eq_findSome?, List.findSome?_cons]
    cases next c <;> rfl
  · rename_i chars mayBeEmpty
    cases mayBeEmpty <;> simp [stops, tryFarthest_eq_findSome?, List.findSome?_append]
  · rfl
  · simp only [stops]
    split <;> simp [List.findSome?_cons]
    cases next _ <;> rfl

end Fragment

/-- The places of a run are reached by passing characters of the class, at least one. -/
theorem passes_of_mem_runStops {chars : CharClass} {c d : Cursor}
    (h : d ∈ runStops chars c.offset c.rest) :
    ∃ piece, c.Passes piece d ∧ piece ≠ [] ∧ ∀ x ∈ piece, chars.contains x = true := by
  obtain ⟨offset, before, rest⟩ := c
  induction rest generalizing offset before with
  | nil => simp [runStops] at h
  | cons x rest ih =>
    simp only [runStops] at h
    split at h
    · rename_i hx
      have hstep : Cursor.Passes ⟨offset, before, x :: rest⟩ [x] ⟨offset + 1, some x, rest⟩ :=
        ⟨rfl, by simp [Cursor.skip]⟩
      rcases List.mem_cons.1 h with rfl | h
      · exact ⟨[x], hstep, by simp, by simpa using hx⟩
      · obtain ⟨piece, hpass, -, hall⟩ := ih (offset + 1) (some x) h
        exact ⟨x :: piece, hstep.trans hpass, by simp, by simpa [hx] using hall⟩
    · simp at h

/-- A place where a piece of the fragment may end is reached by passing that piece. -/
theorem Fragment.passes_of_mem_stops {fragment : Fragment} {c d : Cursor}
    (h : d ∈ fragment.stops c) : ∃ piece, c.Passes piece d := by
  cases fragment with
  | run chars mayBeEmpty lazy =>
    have h : d ∈ (if mayBeEmpty then [c] else []) ++ runStops chars c.offset c.rest := by
      simp only [stops] at h
      split at h
      · exact h
      · exact List.mem_reverse.1 h
    rcases List.mem_append.1 h with h | h
    · split at h
      · exact ⟨[], List.mem_singleton.1 h ▸ c.passes_nil⟩
      · simp at h
    · obtain ⟨piece, hpass, -⟩ := passes_of_mem_runStops h
      exact ⟨piece, hpass⟩
  | word choices =>
    simp only [stops] at h
    split at h
    · obtain ⟨word, -, hword⟩ := List.mem_filterMap.1 (List.mem_filter.1 h).1
      split at hword
      · cases hword
        exact ⟨_, Cursor.passes_skip (List.take_append_drop word.length c.rest).symm⟩
      · simp at hword
    · simp at h
  | literal text =>
    simp only [stops] at h
    split at h
    · rename_i hprefix
      obtain ⟨rest, hrest⟩ := List.isPrefixOf_iff_prefix.1 hprefix
      rw [List.mem_singleton.1 h]
      exact ⟨text, Cursor.passes_skip hrest.symm⟩
    · simp at h

namespace Pattern

/-- The first cut of the text at a place into one piece for each fragment that ends at an allowed
place, and that place. -/
def cut? (isAllowed : Cursor → Bool) : Pattern → Cursor → Option (List Text × Cursor)
  | [], c => if isAllowed c then some ([], c) else none
  | fragment :: fragments, c =>
    fragment.tryStops (fun d => (cut? isAllowed fragments d).map fun (pieces, e) =>
      (c.upTo d :: pieces, e)) c

/-- The pieces of a cut make up the text between its two ends, and the cut ends where it may. -/
theorem passes_of_cut?_eq_some {isAllowed : Cursor → Bool} {pattern : Pattern} {c e : Cursor}
    {pieces : List Text} (h : pattern.cut? isAllowed c = some (pieces, e)) :
    c.Passes pieces.flatten e ∧ isAllowed e = true := by
  induction pattern generalizing c pieces with
  | nil =>
    simp only [cut?] at h
    split at h
    · obtain ⟨rfl, rfl⟩ : [] = pieces ∧ c = e := by simpa using h
      exact ⟨c.passes_nil, by assumption⟩
    · simp at h
  | cons fragment fragments ih =>
    -- The place that succeeds is one of the fragment's stops, and the rest is cut from there.
    rw [cut?, Fragment.tryStops_eq_findSome?] at h
    obtain ⟨d, hd, hcut⟩ := List.exists_of_findSome?_eq_some h
    obtain ⟨⟨rest, e'⟩, hrest, heq⟩ := Option.map_eq_some_iff.1 hcut
    obtain ⟨rfl, rfl⟩ : c.upTo d :: rest = pieces ∧ e' = e := by simpa using heq
    obtain ⟨piece, hpass⟩ := Fragment.passes_of_mem_stops hd
    obtain ⟨hrest, hallowed⟩ := ih hrest
    rw [hpass.upTo_eq]
    exact ⟨hpass.trans hrest, hallowed⟩

end Pattern

end Diagnostics
