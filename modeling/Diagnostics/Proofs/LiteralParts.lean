import Mathlib.Data.List.Forall2
import Diagnostics.Proofs.Matches

/-!
# Literals in parts

A literal may come in two parts, one token for each: the matches are those of the whole literal, with
its piece in two parts as well. `Pattern.CutsAs` says that one pattern cuts every text as another one
does, but for a rewriting of the pieces that keeps their text. A search only asks for cuts, so each of
its steps finds the same match in both patterns (`Pattern.CutsAs.next?`), and so do all steps
(`Pattern.CutsAs.findAll`). A literal and its two parts are such a pair of patterns
(`cutsAs_literal_append`).
-/

namespace Diagnostics

/-- The first result of a search among the stops of a fragment, where each result is rewritten. -/
theorem Fragment.tryStops_map {α β : Type} (fragment : Fragment) (next : Cursor → Option α)
    (f : α → β) (c : Cursor) :
    fragment.tryStops (fun d => (next d).map f) c = (fragment.tryStops next c).map f := by
  rw [tryStops_eq_findSome?, tryStops_eq_findSome?, List.map_findSome?]
  rfl

/-! ## Patterns that cut alike -/

/-- The match with other groups. -/
def Match.mapGroups (f : List Text → List Text) (m : Match) : Match where
  start := m.start
  groups := f m.groups

namespace Pattern

/-- The first pattern cuts every text as the second one does, where the pieces of the first one are
those of the second one rewritten by `f`. This keeps the text of the pieces, and neither pattern is
without fragments if the other one is not. -/
structure CutsAs (pattern other : Pattern) (f : List Text → List Text) : Prop where
  /-- The cuts at each place are the same but for `f`. -/
  cut?_eq : ∀ isAllowed c,
    pattern.cut? isAllowed c = (other.cut? isAllowed c).map fun cut => (f cut.1, cut.2)
  /-- The text of the pieces is kept. -/
  flatten_eq : ∀ pieces, (f pieces).flatten = pieces.flatten
  /-- Both patterns have fragments or none has. -/
  isEmpty_eq : pattern.isEmpty = other.isEmpty

namespace CutsAs

variable {pattern other : Pattern} {f : List Text → List Text} (h : pattern.CutsAs other f)
include h

/-- The first place with a cut is the same in both patterns. -/
theorem find? (isAllowed : Cursor → Bool) (offset : Nat) (before : Option Char) (t : Text) :
    pattern.find? isAllowed offset before t =
      (other.find? isAllowed offset before t).map fun found => (found.1.mapGroups f, found.2) := by
  induction t generalizing offset before with
  | nil =>
    rw [Pattern.find?, Pattern.find?, h.cut?_eq, Option.map_map, Option.map_map]
    rfl
  | cons c t ih =>
    rw [Pattern.find?, Pattern.find?, h.cut?_eq]
    cases other.cut? isAllowed ⟨offset, before, c :: t⟩ with
    | none => exact ih (offset + 1) (some c)
    | some cut => rfl

/-- The next match is the same in both patterns, and the search goes on alike. -/
theorem next? (s : Scan) :
    s.next? pattern = (s.next? other).map fun found => (found.1.mapGroups f, found.2) := by
  have htext : ∀ m : Match, (m.mapGroups f).text = m.text := fun m => h.flatten_eq m.groups
  rw [Scan.next?, Scan.next?, h.isEmpty_eq, h.find?]
  split
  · rfl
  · simp only [Option.map_map, Function.comp_def, htext]

/-- The matches that are left are the same in both patterns. -/
theorem all (s : Scan) : s.all pattern = (s.all other).map (Match.mapGroups f) := by
  fun_induction s.all other with
  | case1 s hnone =>
    have hnone' : s.next? pattern = none := by rw [h.next?, hnone, Option.map_none]
    rw [Scan.all]
    split
    · rfl
    · rename_i hsome
      rw [hnone'] at hsome
      cases hsome
  | case2 s m s' hsome _ ih =>
    have hsome' : s.next? pattern = some (m.mapGroups f, s') := by
      rw [h.next?, hsome, Option.map_some]
    rw [Scan.all]
    split
    · rename_i hnone
      rw [hsome'] at hnone
      cases hnone
    · rename_i hnext
      rw [hsome'] at hnext
      obtain ⟨rfl, rfl⟩ := Prod.mk.inj (Option.some.inj hnext)
      rw [ih, List.map_cons]

/-- All matches of a text are the same in both patterns. -/
theorem findAll (t : Text) : pattern.findAll t = (other.findAll t).map (Match.mapGroups f) :=
  h.all (.start t)

end CutsAs

end Pattern

/-! ## Two parts of a literal -/

/-- The pieces with the n-th one and the one behind it made one. -/
def joinPieces : Nat → List Text → List Text
  | 0, piece :: next :: pieces => (piece ++ next) :: pieces
  | n + 1, piece :: pieces => piece :: joinPieces n pieces
  | _, pieces => pieces

/-- Pieces that are joined have the same text. -/
theorem flatten_joinPieces (n : Nat) (pieces : List Text) :
    (joinPieces n pieces).flatten = pieces.flatten := by
  fun_induction joinPieces n pieces with
  | case1 piece next pieces => simp
  | case2 n piece pieces ih => rw [List.flatten_cons, ih, List.flatten_cons]
  | case3 => rfl

/-- Behind some pieces the next two are joined. -/
theorem joinPieces_length (first : List Text) (piece next : Text) (last : List Text) :
    joinPieces first.length (first ++ piece :: next :: last) = first ++ (piece ++ next) :: last := by
  induction first with
  | nil => rfl
  | cons p first ih => exact congrArg (p :: ·) ih

/-- A literal is tried at the one place behind it. -/
theorem Pattern.cut?_literal_cons (isAllowed : Cursor → Bool) (text : Text) (pattern : Pattern)
    (c : Cursor) : Pattern.cut? isAllowed (.literal text :: pattern) c =
      if text <+: c.rest then
        (pattern.cut? isAllowed (c.skip text)).map fun cut => (text :: cut.1, cut.2)
      else none := by
  simp only [cut?, Fragment.tryStops, List.isPrefixOf_iff_prefix]
  by_cases h : text <+: c.rest
  · obtain ⟨rest, hrest⟩ := h
    rw [(Cursor.passes_skip hrest.symm).upTo_eq]
  · rw [if_neg h, if_neg h]

/-- A literal cuts as its two parts do, when their pieces are joined. -/
theorem Pattern.cut?_literal_append (isAllowed : Cursor → Bool) (x y : Text) (pattern : Pattern)
    (c : Cursor) : Pattern.cut? isAllowed (.literal (x ++ y) :: pattern) c =
      (Pattern.cut? isAllowed (.literal x :: .literal y :: pattern) c).map fun cut =>
        (joinPieces 0 cut.1, cut.2) := by
  have hstart : x ++ y <+: c.rest ↔ x <+: c.rest ∧ y <+: (c.skip x).rest := by
    rw [Cursor.rest_skip]
    constructor
    · rintro ⟨rest, hrest⟩
      rw [← hrest, List.append_assoc, List.drop_left]
      exact ⟨List.prefix_append _ _, List.prefix_append _ _⟩
    · rintro ⟨⟨rest, hrest⟩, hy⟩
      rw [← hrest, List.drop_left] at hy
      rw [← hrest]
      exact (List.prefix_append_right_inj x).2 hy
  rw [cut?_literal_cons, cut?_literal_cons, cut?_literal_cons, Cursor.skip_append]
  by_cases hx : x <+: c.rest
  · by_cases hy : y <+: (c.skip x).rest
    · rw [if_pos (hstart.2 ⟨hx, hy⟩), if_pos hx, if_pos hy, Option.map_map, Option.map_map]
      rfl
    · rw [if_neg fun h => hy (hstart.1 h).2, if_pos hx, if_neg hy]
      rfl
  · rw [if_neg fun h => hx (hstart.1 h).1, if_neg hx]
    rfl

/-- A literal among other fragments cuts as its two parts do, when their pieces are joined. -/
theorem Pattern.cutsAs_literal_append (before : Pattern) (x y : Text) (after : Pattern) :
    CutsAs (before ++ .literal (x ++ y) :: after) (before ++ .literal x :: .literal y :: after)
      (joinPieces before.length) where
  cut?_eq := by
    intro isAllowed c
    induction before generalizing c with
    | nil => exact cut?_literal_append isAllowed x y after c
    | cons fragment before ih =>
      -- The stops of the first fragment are tried alike, and what follows is cut alike.
      rw [List.cons_append, List.cons_append, cut?, cut?, ← Fragment.tryStops_map]
      simp only [ih, Option.map_map]
      rfl
  flatten_eq := flatten_joinPieces before.length
  isEmpty_eq := by cases before <;> rfl

/-- The template with a whole literal cuts as the one with the two parts does, when their pieces are
joined. -/
theorem Template.cutsAs_literal_append (before after : List Token) (x y : Text)
    (vocabulary : Vocabulary) :
    (pattern ⟨before ++ .literal (x ++ y) :: after⟩ vocabulary).CutsAs
      (pattern ⟨before ++ .literal x :: .literal y :: after⟩ vocabulary)
      (joinPieces before.length) := by
  have happend : ∀ tokens, pattern ⟨before ++ tokens⟩ vocabulary =
      pattern ⟨before⟩ vocabulary ++ pattern ⟨tokens⟩ vocabulary := fun _ => List.map_append
  have hlength : (pattern ⟨before⟩ vocabulary).length = before.length := List.length_map _
  rw [happend, happend, ← hlength]
  exact Pattern.cutsAs_literal_append _ x y _

/-- How literal text is cut into tokens makes no difference. The template with a literal in two
parts has the same matches as the one with the whole literal, from the same starts to the same ends:
the groups of all other tokens are the same texts, and the groups of the two parts one after the other
are the group of the whole literal. -/
theorem findAll_literal_append (before after : List Token) (x y : Text) (vocabulary : Vocabulary)
    (text : Text) :
    List.Forall₂ (fun m m' : Match => m.start = m'.start ∧ m.stop = m'.stop ∧
        ∃ first last, first.length = before.length ∧ last.length = after.length ∧
          m.groups = first ++ x :: y :: last ∧ m'.groups = first ++ (x ++ y) :: last)
      ((Template.pattern ⟨before ++ .literal x :: .literal y :: after⟩ vocabulary).findAll text)
      ((Template.pattern ⟨before ++ .literal (x ++ y) :: after⟩ vocabulary).findAll text) := by
  rw [(Template.cutsAs_literal_append before after x y vocabulary).findAll,
    List.forall₂_map_right_iff, List.forall₂_same]
  intro m hm
  -- The groups of a match are a cut, whose pieces at the two parts are these parts.
  obtain ⟨earlier, later, hmatches⟩ := List.append_of_mem hm
  obtain ⟨_, _, -, -, hcut⟩ := (isNextMatch_of_findAll hmatches).cutAt
  obtain ⟨first, others, hgroups, hfirst, hothers⟩ := IsCut.append_iff.1 hcut
  obtain _ | ⟨rfl, _ | ⟨rfl, hlast⟩⟩ := hothers
  refine ⟨rfl, ?_, first, _, hfirst.length_eq, hlast.length_eq, hgroups, ?_⟩
  · rw [Match.stop, Match.stop, Match.text, Match.text, Match.mapGroups, flatten_joinPieces]
  · rw [Match.mapGroups, hgroups, ← hfirst.length_eq, joinPieces_length]

/-- Both parts may be empty: two empty literals match at every place, as one does. -/
example :
    (Template.pattern ⟨[.literal [], .literal []]⟩ .standard).findAll "a".toList =
        [⟨0, [[], []]⟩, ⟨1, [[], []]⟩] ∧
      (Template.pattern ⟨[.literal []]⟩ .standard).findAll "a".toList = [⟨0, [[]]⟩, ⟨1, [[]]⟩] := by
  decide +kernel

end Diagnostics
