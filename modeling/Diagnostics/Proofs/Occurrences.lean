import Mathlib.Data.List.Basic
import Mathlib.Data.Nat.Find
import Diagnostics.Text.Basic

/-!
# Occurrences of one text in another

`List.dropInfix?` parts a text at the first occurrence of another one: none begins before it
(`dropInfix?_eq_some_iff`), and where there is no first one there is none at all
(`dropInfix?_eq_none_iff`). When this is done again behind each occurrence, the occurrences that are
found do not overlap: `occurrences` lists where they begin, and `replaceAll` puts another text in
their place.
-/

namespace Diagnostics.Text

/-! ## The first occurrence -/

section

variable {s t before after : Text}

/-- The text is parted at an occurrence, and none begins before it. -/
theorem dropInfix?_eq_some_iff : t.dropInfix? s = some (before, after) ↔
    t = before ++ (s ++ after) ∧
      ∀ before' after', t = before' ++ (s ++ after') → before.length ≤ before'.length := by
  rw [List.dropInfix?_eq_some_iff]
  simp only [beq_iff_eq, exists_eq_right, List.append_assoc, ge_iff_le]
  refine and_congr_right fun _ => ⟨fun h before' after' ht => h before' s after' ht rfl, ?_⟩
  rintro h before' _ after' ht rfl
  exact h before' after' ht

/-- Where a text is not parted, the other one does not occur in it. -/
theorem dropInfix?_eq_none_iff : t.dropInfix? s = none ↔ ¬s <:+: t := by
  classical
  constructor
  · rintro hnone ⟨before, after, ht⟩
    -- Of all occurrences there is a first one, where the text would be parted.
    have hexists : ∃ n, ∃ before after, before.length = n ∧ t = before ++ (s ++ after) :=
      ⟨before.length, before, after, rfl, by rw [← ht, List.append_assoc]⟩
    obtain ⟨first, rest, hlength, hfirst⟩ := Nat.find_spec hexists
    have hleast : ∀ before' after', t = before' ++ (s ++ after') → first.length ≤ before'.length :=
      fun before' after' ht' => hlength ▸ Nat.find_min' hexists ⟨before', after', rfl, ht'⟩
    rw [dropInfix?_eq_some_iff.2 ⟨hfirst, hleast⟩] at hnone
    cases hnone
  · intro hnot
    refine Option.eq_none_iff_forall_ne_some.2 fun parts hsome => hnot ?_
    refine ⟨parts.1, parts.2, ?_⟩
    rw [List.append_assoc, ← (dropInfix?_eq_some_iff.1 hsome).1]

/-- A text that begins with the other one is parted there. -/
theorem dropInfix?_append (s t : Text) : (s ++ t).dropInfix? s = some ([], t) :=
  dropInfix?_eq_some_iff.2 ⟨rfl, fun _ _ _ => Nat.zero_le _⟩

/-- A text that does not begin with the other one is parted behind its first character. -/
theorem dropInfix?_cons {c : Char} (h : ¬s <+: c :: t) :
    (c :: t).dropInfix? s = (t.dropInfix? s).map fun parts => (c :: parts.1, parts.2) := by
  have hcons : ∀ before after, c :: t = before ++ (s ++ after) →
      ∃ before', before = c :: before' ∧ t = before' ++ (s ++ after) := by
    rintro (_ | ⟨d, before⟩) after heq
    · exact absurd ⟨after, heq.symm⟩ h
    · obtain ⟨rfl, rfl⟩ := List.cons.inj heq
      exact ⟨before, rfl, rfl⟩
  cases hparts : t.dropInfix? s with
  | none =>
    rw [dropInfix?_eq_none_iff] at hparts
    rw [Option.map_none, dropInfix?_eq_none_iff, List.infix_cons_iff, not_or]
    exact ⟨h, hparts⟩
  | some parts =>
    obtain ⟨rfl, hfirst⟩ := dropInfix?_eq_some_iff.1 hparts
    rw [Option.map_some, dropInfix?_eq_some_iff]
    refine ⟨rfl, fun before' after' heq => ?_⟩
    obtain ⟨before', rfl, ht⟩ := hcons before' after' heq
    exact Nat.succ_le_succ (hfirst before' after' ht)

/-- What follows an occurrence is a shorter text. -/
theorem length_lt_of_dropInfix?_eq_some (hs : s ≠ []) (h : t.dropInfix? s = some (before, after)) :
    after.length < t.length := by
  have hpos := List.length_pos_iff.2 hs
  rw [(dropInfix?_eq_some_iff.1 h).1, List.length_append, List.length_append]
  omega

end

/-! ## One occurrence after the other -/

/-- The offsets at which the leftmost occurrences of `s` begin that do not overlap, in a text that
itself begins at `offset`. -/
def occurrencesFrom (s : Text) (hs : s ≠ []) (offset : Nat) (t : Text) : List Nat :=
  match h : t.dropInfix? s with
  | none => []
  | some (before, after) =>
    have := length_lt_of_dropInfix?_eq_some hs h
    (offset + before.length) ::
      occurrencesFrom s hs (offset + before.length + s.length) after
termination_by t.length

/-- The offsets at which the leftmost occurrences of `s` begin that do not overlap. -/
def occurrences (s : Text) (hs : s ≠ []) (t : Text) : List Nat :=
  occurrencesFrom s hs 0 t

/-- The text with `new` in place of the leftmost occurrences of `old` that do not overlap. -/
def replaceAll (old : Text) (hold : old ≠ []) (new t : Text) : Text :=
  match h : t.dropInfix? old with
  | none => t
  | some (before, after) =>
    have := length_lt_of_dropInfix?_eq_some hold h
    before ++ (new ++ replaceAll old hold new after)
termination_by t.length

section

variable {old new : Text} {hold : old ≠ []}

/-- What stands before the first occurrence stays, and what follows it is searched again. -/
theorem replaceAll_eq (t : Text) : replaceAll old hold new t =
    (t.dropInfix? old).elim t fun parts => parts.1 ++ (new ++ replaceAll old hold new parts.2) := by
  rw [replaceAll]
  split
  · rename_i hnone
    rw [hnone, Option.elim_none]
  · rename_i hsome
    simp only [hsome, Option.elim_some]

/-- In the empty text there is nothing to replace. -/
@[simp] theorem replaceAll_nil : replaceAll old hold new [] = [] := by
  have hnone : ([] : Text).dropInfix? old = none :=
    dropInfix?_eq_none_iff.2 fun hinfix => hold (List.infix_nil.1 hinfix)
  rw [replaceAll_eq, hnone, Option.elim_none]

/-- An occurrence at the beginning is replaced. -/
theorem replaceAll_append (t : Text) :
    replaceAll old hold new (old ++ t) = new ++ replaceAll old hold new t := by
  rw [replaceAll_eq, dropInfix?_append]
  rfl

/-- A character at which no occurrence begins stays. -/
theorem replaceAll_cons {c : Char} {t : Text} (h : ¬old <+: c :: t) :
    replaceAll old hold new (c :: t) = c :: replaceAll old hold new t := by
  rw [replaceAll_eq, dropInfix?_cons h, replaceAll_eq t]
  cases t.dropInfix? old <;> rfl

/-- A stretch without the first character of what is replaced stays. -/
theorem replaceAll_append_of_notMem {c : Char} {rest stretch : Text} (h : c ∉ stretch) (t : Text) :
    replaceAll (c :: rest) (List.cons_ne_nil c rest) new (stretch ++ t) =
      stretch ++ replaceAll (c :: rest) (List.cons_ne_nil c rest) new t := by
  induction stretch with
  | nil => rfl
  | cons d stretch ih =>
    rw [List.mem_cons, not_or] at h
    rw [List.cons_append, replaceAll_cons fun hstart => h.1 (List.cons_prefix_cons.1 hstart).1,
      ih h.2, List.cons_append]

/-- To replace a character is to replace it wherever it is. -/
theorem replaceAll_singleton (c : Char) (t : Text) :
    replaceAll [c] (List.cons_ne_nil c []) new t = t.flatMap fun d => if d = c then new else [d] := by
  induction t with
  | nil => rw [replaceAll_nil, List.flatMap_nil]
  | cons d t ih =>
    rw [List.flatMap_cons, ← ih]
    by_cases hd : d = c
    · rw [if_pos hd, hd]
      exact replaceAll_append t
    · rw [if_neg hd]
      exact replaceAll_cons fun hstart => hd (List.cons_prefix_cons.1 hstart).1.symm

end

/-- Occurrences do not overlap, and after one the search goes on behind it. -/
example : occurrences "aa".toList (by decide) "aaaaa".toList = [0, 2] ∧
    replaceAll "aa".toList (by decide) "b".toList "aaaaa".toList = "bba".toList := by
  decide +kernel

end Diagnostics.Text
