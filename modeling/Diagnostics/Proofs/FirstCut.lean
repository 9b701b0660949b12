import Diagnostics.Proofs.Stops

/-!
# The matcher finds the first cut

A pattern cuts a text at a place by trying the stops of each fragment in turn. The stops of a token
are the places after the pieces that it admits, those that it takes first coming first. From these
two facts alone, by induction on the tokens, `Pattern.cut?` finds a cut whenever there is one
(`cut?_isSome_of_isCut`), and the cut that it finds precedes all others (`isCut_of_cut?_eq_some`).
-/

namespace Diagnostics

open Cursor (between)

variable {vocabulary : Vocabulary} {tokens : List Token} {isAllowed : Cursor → Bool}
  {left right : Text} {pieces : List Text}

/-- The pattern of a template is that of its first token, and then that of the others. -/
theorem pattern_cons (token : Token) (tokens : List Token) (vocabulary : Vocabulary) :
    Template.pattern ⟨token :: tokens⟩ vocabulary =
      token.fragment vocabulary.alternatives :: Template.pattern ⟨tokens⟩ vocabulary := rfl

/-- Where there is a cut that ends at an allowed place, the matcher finds one. -/
theorem cut?_isSome_of_isCut (h : IsCut vocabulary tokens left pieces right)
    (hallowed : isAllowed (between (left ++ pieces.flatten) right) = true) :
    ((Template.pattern ⟨tokens⟩ vocabulary).cut? isAllowed
      (between left (pieces.flatten ++ right))).isSome := by
  induction h with
  | nil =>
    rw [List.flatten_nil, List.append_nil] at hallowed
    simp [Template.pattern, Pattern.cut?, hallowed]
  | @cons token tokens left piece right pieces hpiece _ ih =>
    rw [List.flatten_cons, ← List.append_assoc] at hallowed
    rw [pattern_cons, Pattern.cut?, Fragment.tryStops_eq_findSome?, List.findSome?_isSome_iff]
    have hstop : between (left ++ piece) (pieces.flatten ++ right) ∈
        (token.fragment vocabulary.alternatives).stops
          (between left ((piece :: pieces).flatten ++ right)) :=
      Token.mem_stops_iff.2 ⟨piece, pieces.flatten ++ right, by simp, rfl, hpiece⟩
    exact ⟨_, hstop, by simpa using ih hallowed⟩

/-- What the matcher finds is a cut that ends at an allowed place, and every other such cut is
preceded by it. -/
theorem isCut_of_cut?_eq_some {t : Text} {e : Cursor}
    (h : (Template.pattern ⟨tokens⟩ vocabulary).cut? isAllowed (between left t) =
      some (pieces, e)) :
    ∃ right, t = pieces.flatten ++ right ∧ e = between (left ++ pieces.flatten) right ∧
      IsCut vocabulary tokens left pieces right ∧
      ∀ others right', t = others.flatten ++ right' → IsCut vocabulary tokens left others right' →
        isAllowed (between (left ++ others.flatten) right') = true →
        others = pieces ∨ Precedes tokens pieces others := by
  induction tokens generalizing left t pieces with
  | nil =>
    simp only [Template.pattern, List.map_nil, Pattern.cut?] at h
    split at h
    · obtain ⟨rfl, rfl⟩ : [] = pieces ∧ between left t = e := by simpa using h
      refine ⟨t, rfl, by simp, .nil, fun others right' _ hothers _ => ?_⟩
      cases hothers
      exact Or.inl rfl
    · simp at h
  | cons token tokens ih =>
    rw [pattern_cons, Pattern.cut?, Fragment.tryStops_eq_findSome?] at h
    -- The stop that succeeds, with the stops that failed before it and those not tried after it.
    obtain ⟨tried, d, untried, hstops, hd, htried⟩ := List.findSome?_eq_some_iff.1 h
    obtain ⟨piece, rest, rfl, rfl, hpiece⟩ := Token.mem_stops_iff.1
      (hstops ▸ List.mem_append_right tried List.mem_cons_self)
    obtain ⟨⟨later, e'⟩, hlater, heq⟩ := Option.map_eq_some_iff.1 hd
    obtain ⟨rfl, rfl⟩ : piece :: later = pieces ∧ e' = e := by
      simpa [Cursor.upTo_between] using heq
    obtain ⟨right, rfl, rfl, hcut, hfirst⟩ := ih hlater
    refine ⟨right, by simp, by simp, .cons hpiece hcut, fun others right' ht hothers hallowed => ?_⟩
    cases hothers with
    | @cons _ _ _ other _ others hother hothers =>
      rw [List.flatten_cons, ← List.append_assoc] at hallowed
      rw [List.flatten_cons, List.append_assoc] at ht
      have hmem := Token.mem_stops_iff.2 ⟨other, others.flatten ++ right', ht, rfl, hother⟩
      have hpairwise := Token.pairwise_stops vocabulary token
        (between left (piece ++ (later.flatten ++ right)))
      rw [hstops] at hmem hpairwise
      -- The other cut's stop cannot have failed, so it is the one that succeeds or comes after it.
      have hchoice : (left ++ piece).length = (left ++ other).length ∨
          token.PrefersLength (left ++ piece).length (left ++ other).length := by
        rcases List.mem_append.1 hmem with hmem | hmem
        · have hsome := cut?_isSome_of_isCut hothers hallowed
          rw [Option.map_eq_none_iff.1 (htried _ hmem)] at hsome
          simp at hsome
        · rcases List.mem_cons.1 hmem with hsame | hmem
          · exact Or.inl (congrArg Cursor.offset hsame).symm
          · exact (List.pairwise_cons.1 (List.pairwise_append.1 hpairwise).2.1).1 _ hmem
      rcases hchoice with hlength | hprefers
      · obtain ⟨rfl, hrest⟩ := List.append_inj ht (by simpa using hlength)
        exact (hfirst others right' hrest hothers hallowed).imp (congrArg (List.cons _)) .tail
      · rw [List.length_append, List.length_append, Token.prefersLength_add_iff] at hprefers
        exact Or.inr (.head hprefers)

end Diagnostics
