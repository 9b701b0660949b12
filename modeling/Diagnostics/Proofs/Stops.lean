import Diagnostics.Proofs.Admissible
import Diagnostics.Proofs.Alternatives

/-!
# The stops of a token

The matcher tries a fragment of a pattern at the places that `Fragment.stops` lists. Here these are
shown to be the places after the pieces that the token admits (`Token.mem_stops_iff`), in the order
in which the token takes them (`Token.pairwise_stops`). `Cursor.between` is the place that the
statements speak of: the one between two parts of a text.
-/

namespace Diagnostics

/-- The place between the two parts of a text. -/
def Cursor.between (left right : Text) : Cursor where
  offset := left.length
  before := left.getLast?
  rest := right

namespace Cursor

variable {left piece right : Text}

@[simp] theorem offset_between : (between left right).offset = left.length := rfl

@[simp] theorem rest_between : (between left right).rest = right := rfl

/-- Skipping a piece of the text brings the piece to the left of the place. -/
theorem skip_between :
    (between left (piece ++ right)).skip piece = between (left ++ piece) right := by
  simp [between, skip, List.getLast?_append]

/-- A piece that stands between two places is the text from one to the other. -/
theorem upTo_between :
    (between left (piece ++ right)).upTo (between (left ++ piece) right) = piece := by
  simp [between, upTo]

/-- One character further, the place is described as the stops of a run describe it. -/
theorem between_append_singleton (c : Char) :
    between (left ++ [c]) right = ⟨left.length + 1, some c, right⟩ := by
  simp [between]

end Cursor

open Cursor (between)

/-! ## The stops of a fragment -/

/-- The stops of a run are the places after the non-empty pieces of characters of the class. -/
theorem mem_runStops_iff {chars : CharClass} {left t : Text} {d : Cursor} :
    d ∈ runStops chars left.length t ↔ ∃ piece right, t = piece ++ right ∧
      d = between (left ++ piece) right ∧ piece ≠ [] ∧ ∀ c ∈ piece, chars.contains c = true := by
  induction t generalizing left with
  | nil =>
    simp only [runStops, List.not_mem_nil, false_iff]
    rintro ⟨piece, right, ht, -, hne, -⟩
    exact hne (List.append_eq_nil_iff.1 ht.symm).1
  | cons x t ih =>
    have ih := @ih (left ++ [x])
    simp only [List.length_append, List.length_singleton, List.append_assoc,
      List.singleton_append] at ih
    simp only [runStops, ← Cursor.between_append_singleton]
    constructor
    · intro hd
      split at hd
      · rename_i hx
        rcases List.mem_cons.1 hd with rfl | hd
        · exact ⟨[x], t, rfl, rfl, by simp, by simpa using hx⟩
        · obtain ⟨piece, right, rfl, rfl, -, hall⟩ := ih.1 hd
          exact ⟨x :: piece, right, rfl, rfl, by simp, by simpa using ⟨hx, hall⟩⟩
      · simp at hd
    · rintro ⟨_ | ⟨y, piece⟩, right, ht, rfl, hne, hall⟩
      · exact absurd rfl hne
      · obtain ⟨rfl, rfl⟩ : x = y ∧ t = piece ++ right := by simpa using ht
        rw [if_pos (hall x List.mem_cons_self), List.mem_cons]
        rcases List.eq_nil_or_concat' piece with rfl | ⟨_, _, hpiece⟩
        · exact Or.inl rfl
        · refine Or.inr (ih.2 ⟨piece, right, rfl, rfl, by simp [hpiece], fun c hc => ?_⟩)
          exact hall c (List.mem_cons_of_mem _ hc)

/-- The stops of a run lie one after the other, all of them after the place where it begins. -/
theorem pairwise_runStops (chars : CharClass) (offset : Nat) (t : Text) :
    (runStops chars offset t).Pairwise (fun d e => d.offset < e.offset) ∧
      ∀ d ∈ runStops chars offset t, offset < d.offset := by
  induction t generalizing offset with
  | nil => simp [runStops]
  | cons x t ih =>
    obtain ⟨hpairwise, hafter⟩ := ih (offset + 1)
    rw [runStops]
    split
    · refine ⟨List.pairwise_cons.2 ⟨hafter, hpairwise⟩, fun d hd => ?_⟩
      rcases List.mem_cons.1 hd with rfl | hd
      · exact Nat.lt_succ_self offset
      · exact Nat.lt_of_succ_lt (hafter d hd)
    · simp

/-- A word stands at the beginning of a text when the text begins with a piece of its letters. -/
theorem startsCaseless_iff {word t : Text} :
    word.startsCaseless t = true ↔ ∃ piece right, t = piece ++ right ∧ word.SameLetters piece := by
  induction word generalizing t with
  | nil => exact iff_of_true rfl ⟨[], t, rfl, rfl⟩
  | cons x word ih =>
    cases t with
    | nil =>
      simp only [Text.startsCaseless, Bool.false_eq_true, false_iff]
      rintro ⟨piece, right, ht, hsame⟩
      rw [(List.append_eq_nil_iff.1 ht.symm).1] at hsame
      simp [Text.SameLetters] at hsame
    | cons y t =>
      simp only [Text.startsCaseless, sameLetter, Bool.and_eq_true, beq_iff_eq, ih]
      constructor
      · rintro ⟨hxy, piece, right, rfl, hsame⟩
        exact ⟨y :: piece, right, rfl, by
          rw [Text.SameLetters, List.map_cons, List.map_cons, hxy, hsame]⟩
      · rintro ⟨_ | ⟨z, piece⟩, right, ht, hsame⟩
        · simp [Text.SameLetters] at hsame
        · obtain ⟨rfl, rfl⟩ : y = z ∧ t = piece ++ right := by simpa using ht
          obtain ⟨hxy, hsame⟩ := List.cons.inj hsame
          exact ⟨hxy, piece, right, rfl, hsame⟩

/-- The same letters are as many. -/
theorem Text.SameLetters.length_eq {word piece : Text} (h : word.SameLetters piece) :
    word.length = piece.length := by
  simpa using congrArg List.length h

namespace Fragment

variable {left t : Text} {d : Cursor}

/-- The stops of a run of characters are the places after the pieces of characters of the class. -/
theorem mem_stops_run_iff {chars : CharClass} {mayBeEmpty lazy : Bool} :
    d ∈ (run chars mayBeEmpty lazy).stops (between left t) ↔ ∃ piece right, t = piece ++ right ∧
      d = between (left ++ piece) right ∧ (piece = [] → mayBeEmpty = true) ∧
        ∀ c ∈ piece, chars.contains c = true := by
  have hstops : d ∈ (run chars mayBeEmpty lazy).stops (between left t) ↔
      mayBeEmpty = true ∧ d = between left t ∨ d ∈ runStops chars left.length t := by
    cases mayBeEmpty <;> cases lazy <;> simp [stops, or_comm]
  rw [hstops, mem_runStops_iff]
  constructor
  · rintro (⟨hempty, rfl⟩ | ⟨piece, right, rfl, rfl, hne, hall⟩)
    · exact ⟨[], t, rfl, by simp, fun _ => hempty, by simp⟩
    · exact ⟨piece, right, rfl, rfl, fun h => absurd h hne, hall⟩
  · rintro ⟨piece, right, rfl, rfl, hempty, hall⟩
    by_cases hpiece : piece = []
    · subst hpiece
      exact Or.inl ⟨hempty rfl, by simp⟩
    · exact Or.inr ⟨piece, right, rfl, rfl, hpiece, hall⟩

/-- The places after the words, in any case, are those after the pieces of the letters of one of
them. -/
theorem mem_wordStops_iff {choices : List Text} :
    d ∈ wordStops choices (between left t) ↔ ∃ piece right, t = piece ++ right ∧
      d = between (left ++ piece) right ∧ ∃ word ∈ choices, word.SameLetters piece := by
  simp only [wordStops, List.mem_filterMap]
  constructor
  · rintro ⟨word, hword, hd⟩
    split at hd
    · rename_i hstarts
      obtain ⟨piece, right, rfl, hsame⟩ := startsCaseless_iff.1 hstarts
      refine ⟨piece, right, rfl, ?_, word, hword, hsame⟩
      rw [← Option.some.inj hd, Cursor.rest_between, hsame.length_eq, List.take_left,
        Cursor.skip_between]
    · simp at hd
  · rintro ⟨piece, right, rfl, rfl, word, hword, hsame⟩
    refine ⟨word, hword, ?_⟩
    rw [Cursor.rest_between, if_pos (startsCaseless_iff.2 ⟨piece, right, rfl, hsame⟩),
      hsame.length_eq, List.take_left, Cursor.skip_between]

/-- The stops of a word are the places after the pieces of the letters of one of the choices that
stand between word boundaries. -/
theorem mem_stops_word_iff {choices : List Text} :
    d ∈ (word choices).stops (between left t) ↔ ∃ piece right, t = piece ++ right ∧
      d = between (left ++ piece) right ∧ (∃ word ∈ choices, word.SameLetters piece) ∧
        isWordBoundary left.getLast? t.head? = true ∧
          isWordBoundary (left ++ piece).getLast? right.head? = true := by
  have hboundary : (between left t).isWordBoundary = isWordBoundary left.getLast? t.head? := rfl
  simp only [stops, hboundary]
  split
  · rename_i hstart
    rw [List.mem_filter, mem_wordStops_iff]
    constructor
    · rintro ⟨⟨piece, right, rfl, rfl, hword⟩, hend⟩
      exact ⟨piece, right, rfl, rfl, hword, hstart, hend⟩
    · rintro ⟨piece, right, rfl, rfl, hword, -, hend⟩
      exact ⟨⟨piece, right, rfl, rfl, hword⟩, hend⟩
  · rename_i hstart
    simp only [List.not_mem_nil, false_iff]
    rintro ⟨piece, right, -, -, -, hstart', -⟩
    exact hstart hstart'

/-- The one stop of a literal is the place after it. -/
theorem mem_stops_literal_iff {text : Text} :
    d ∈ (literal text).stops (between left t) ↔ ∃ piece right, t = piece ++ right ∧
      d = between (left ++ piece) right ∧ piece = text := by
  have hstops : d ∈ (literal text).stops (between left t) ↔
      text <+: t ∧ d = (between left t).skip text := by
    simp [stops]
  rw [hstops]
  constructor
  · rintro ⟨⟨right, rfl⟩, rfl⟩
    exact ⟨text, right, rfl, Cursor.skip_between, rfl⟩
  · rintro ⟨_, right, rfl, rfl, rfl⟩
    exact ⟨List.prefix_append _ _, Cursor.skip_between.symm⟩

/-- The stops of a run come in order, from the nearest on if it is lazy and else from the
farthest. -/
theorem pairwise_stops_run (chars : CharClass) (mayBeEmpty lazy : Bool) (c : Cursor) :
    ((run chars mayBeEmpty lazy).stops c).Pairwise fun d e =>
      if lazy then d.offset < e.offset else e.offset < d.offset := by
  obtain ⟨hpairwise, hafter⟩ := pairwise_runStops chars c.offset c.rest
  have hnearestFirst : ((if mayBeEmpty then [c] else []) ++
      runStops chars c.offset c.rest).Pairwise fun d e => d.offset < e.offset := by
    cases mayBeEmpty
    · simpa using hpairwise
    · simpa using ⟨hafter, hpairwise⟩
  cases lazy
  · exact List.pairwise_reverse.2 hnearestFirst
  · exact hnearestFirst

/-- The stops of a word come in the order of the choices. If these are in the order in which words
are tried, no stop is nearer than a later one. -/
theorem pairwise_stops_word {choices : List Text}
    (h : choices.Pairwise Vocabulary.IsTriedBefore) (c : Cursor) :
    ((word choices).stops c).Pairwise fun d e => e.offset ≤ d.offset := by
  have hoffset : ∀ {word : Text} {d : Cursor}, (if word.startsCaseless c.rest then
      some (c.skip (c.rest.take word.length)) else none) = some d →
        d.offset = c.offset + word.length := by
    intro word d hd
    split at hd
    · rename_i hstarts
      obtain ⟨piece, right, hrest, hsame⟩ := startsCaseless_iff.1 hstarts
      rw [← Option.some.inj hd, hrest, hsame.length_eq, List.take_left, Cursor.offset_skip]
    · simp at hd
  have hwordStops : (wordStops choices c).Pairwise fun d e => e.offset ≤ d.offset := by
    refine h.filterMap _ fun v w hvw d hd e he => ?_
    rw [hoffset hd, hoffset he]
    exact Nat.add_le_add_left hvw.length_le _
  simp only [stops]
  split
  · exact hwordStops.filter _
  · exact List.Pairwise.nil

end Fragment

/-! ## Tokens -/

/-- What the characters of a file name are not. -/
theorem all_fileName_iff {piece : Text} : (∀ c ∈ piece, CharClass.fileName.contains c = true) ↔
    '\x00' ∉ piece ∧ '\n' ∉ piece := by
  simp only [CharClass.contains, Bool.and_eq_true, bne_iff_ne, ne_eq, forall_and]
  exact and_congr List.forall_mem_ne' List.forall_mem_ne'

/-- What the characters of a line are not. -/
theorem all_inLine_iff {piece : Text} : (∀ c ∈ piece, CharClass.inLine.contains c = true) ↔
    '\n' ∉ piece := by
  simp only [CharClass.contains, bne_iff_ne, ne_eq]
  exact List.forall_mem_ne'

namespace Token

/-- The stops of a token are the places after the pieces that it admits. -/
theorem mem_stops_iff {vocabulary : Vocabulary} {token : Token} {left t : Text} {d : Cursor} :
    d ∈ (token.fragment vocabulary.alternatives).stops (between left t) ↔ ∃ piece right,
      t = piece ++ right ∧ d = between (left ++ piece) right ∧
        token.Admits vocabulary left piece right := by
  rcases token with (_ | _ | _ | _ | _ | _ | _) | _
  case literal => exact Fragment.mem_stops_literal_iff
  case placeholder.kind =>
    simp only [fragment, Fragment.mem_stops_word_iff, Vocabulary.mem_alternatives]
    constructor
    · rintro ⟨piece, right, rfl, hd, hadmits⟩
      exact ⟨piece, right, rfl, hd, hadmits⟩
    · rintro ⟨piece, right, rfl, hd, hadmits⟩
      exact ⟨piece, right, rfl, hd, hadmits⟩
  case placeholder.file | placeholder.message | placeholder.wildcard =>
    simp only [fragment, Fragment.mem_stops_run_iff, all_fileName_iff, all_inLine_iff, Admits,
      Bool.false_eq_true, implies_true, true_and]
  -- For the other runs the class of characters is the language itself.
  all_goals
    simp only [fragment, Fragment.mem_stops_run_iff, Bool.false_eq_true]
    exact Iff.rfl

/-- Earlier stops of a token are preferred to later ones, unless they are the same place. -/
theorem pairwise_stops (vocabulary : Vocabulary) (token : Token) (c : Cursor) :
    ((token.fragment vocabulary.alternatives).stops c).Pairwise fun d e =>
      d.offset = e.offset ∨ token.PrefersLength d.offset e.offset := by
  rcases token with (_ | _ | _ | _ | _ | _ | _) | text
  case literal =>
    simp only [fragment, Fragment.stops]
    split
    · exact List.pairwise_singleton _ _
    · exact List.Pairwise.nil
  case placeholder.kind =>
    refine (Fragment.pairwise_stops_word vocabulary.pairwise_alternatives c).imp fun h => ?_
    exact (Nat.eq_or_lt_of_le h).imp_left Eq.symm
  all_goals
    simp only [fragment]
    refine (Fragment.pairwise_stops_run _ _ _ c).imp fun h => Or.inr ?_
    simpa only [PrefersLength, Bool.false_eq_true, if_true, if_false] using h

end Token

end Diagnostics
