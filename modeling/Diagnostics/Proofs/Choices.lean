import Diagnostics.Proofs.NextMatch

/-!
# First cuts, token by token

Of the cuts that begin at one place of a text the search takes the first one. `IsFirstCut` says that
pieces are this one, and it is shown here token by token: a first cut of the other tokens stays first
with a piece of one more token in front of it, if this token has no better piece with which the
others can be cut too (`IsFirstCut.cons`). A literal has no other piece (`IsFirstCut.literal`). A
token that takes the longer piece has no better one if its class of characters ends with the piece
(`IsFirstCut.run`), and otherwise if the others have no cut further on (`IsFirstCut.longest`). A
token that takes the shorter piece has no better one if the others have no cut inside the piece
(`IsFirstCut.shortest`). Where a first cut stands and none begins earlier, there is the next match
(`IsFirstCut.isNextMatch`).
-/

namespace Diagnostics

/-- The pieces are a cut between `left` and `right`, and the first one of all cuts of the text there
that begin where they do. -/
structure IsFirstCut (vocabulary : Vocabulary) (tokens : List Token) (left : Text)
    (pieces : List Text) (right : Text) : Prop where
  /-- The pieces are a cut. -/
  isCut : IsCut vocabulary tokens left pieces right
  /-- The pieces precede those of every other cut. -/
  first : ∀ others rest, others.flatten ++ rest = pieces.flatten ++ right →
    IsCut vocabulary tokens left others rest → others = pieces ∨ Precedes tokens pieces others

namespace IsFirstCut

variable {vocabulary : Vocabulary} {token : Token} {tokens : List Token} {left piece right : Text}
  {pieces : List Text}

/-- Without tokens there is no other cut. -/
theorem nil : IsFirstCut vocabulary [] left [] right where
  isCut := .nil
  first := by
    rintro others rest - ⟨⟩
    exact Or.inl rfl

/-- A piece in front of a first cut makes a first cut, if its token would not take any other piece
with which a cut begins there. -/
theorem cons (hpiece : token.Admits vocabulary left piece (pieces.flatten ++ right))
    (hchoice : ∀ other others rest,
      other ++ (others.flatten ++ rest) = piece ++ (pieces.flatten ++ right) →
      IsCut vocabulary (token :: tokens) left (other :: others) rest →
      other = piece ∨ token.Prefers piece other)
    (hrest : IsFirstCut vocabulary tokens (left ++ piece) pieces right) :
    IsFirstCut vocabulary (token :: tokens) left (piece :: pieces) right := by
  refine ⟨.cons hpiece hrest.isCut, fun others rest heq hcut => ?_⟩
  cases hcut with
  | @cons _ _ _ other _ others hother hothers =>
    rw [List.flatten_cons, List.flatten_cons, List.append_assoc, List.append_assoc] at heq
    rcases hchoice other others rest heq (.cons hother hothers) with rfl | hprefers
    · rcases hrest.first others rest (List.append_cancel_left heq) hothers with rfl | hprecedes
      · exact Or.inl rfl
      · exact Or.inr (.tail hprecedes)
    · exact Or.inr (.head hprefers)

/-- A literal has no choice. -/
theorem literal {text : Text} (hrest : IsFirstCut vocabulary tokens (left ++ text) pieces right) :
    IsFirstCut vocabulary (.literal text :: tokens) left (text :: pieces) right := by
  refine cons rfl (fun other others rest _ hcut => Or.inl ?_) hrest
  exact (IsCut.cons_iff.1 hcut).1

/-- A token that takes the longer piece has no better one than a piece behind which no cut of the
other tokens begins. -/
theorem longest (hprefers : ∀ {m n}, n < m → token.PrefersLength m n)
    (hpiece : token.Admits vocabulary left piece (pieces.flatten ++ right))
    (hlonger : ∀ more others rest, more ≠ [] →
      more ++ (others.flatten ++ rest) = pieces.flatten ++ right →
      ¬IsCut vocabulary (token :: tokens) left ((piece ++ more) :: others) rest)
    (hrest : IsFirstCut vocabulary tokens (left ++ piece) pieces right) :
    IsFirstCut vocabulary (token :: tokens) left (piece :: pieces) right := by
  refine cons hpiece (fun other others rest heq hcut => ?_) hrest
  rcases List.append_eq_append_iff.1 heq with ⟨more, rfl, -⟩ | ⟨more, rfl, hmore⟩
  · cases more with
    | nil => exact Or.inl (List.append_nil _).symm
    | cons c more =>
      -- The other piece is shorter.
      refine Or.inr (hprefers ?_)
      rw [List.length_append, List.length_cons]
      omega
  · by_cases hnil : more = []
    · exact Or.inl (by rw [hnil, List.append_nil])
    · exact absurd hcut (hlonger more others rest hnil hmore.symm)

/-- A token that takes the longer piece has no better one than a piece that ends with the class of
its characters. -/
theorem run {p : Char → Prop} (hprefers : ∀ {m n}, n < m → token.PrefersLength m n)
    (hclass : ∀ {other rest}, token.Admits vocabulary left other rest → ∀ c ∈ other, p c)
    (hpiece : token.Admits vocabulary left piece (pieces.flatten ++ right))
    (hend : ∀ c ∈ (pieces.flatten ++ right).head?, ¬p c)
    (hrest : IsFirstCut vocabulary tokens (left ++ piece) pieces right) :
    IsFirstCut vocabulary (token :: tokens) left (piece :: pieces) right := by
  refine longest hprefers hpiece (fun more others rest hmore heq hcut => ?_) hrest
  obtain ⟨c, more, rfl⟩ := List.exists_cons_of_ne_nil hmore
  refine hend c ?_ (hclass (IsCut.cons_iff.1 hcut).1 c ?_)
  · rw [← heq]
    rfl
  · exact List.mem_append_right piece List.mem_cons_self

/-- A token that takes the shorter piece has no better one than a piece inside of which no cut of the
other tokens begins. -/
theorem shortest (hprefers : ∀ {m n}, m < n → token.PrefersLength m n)
    (hpiece : token.Admits vocabulary left piece (pieces.flatten ++ right))
    (hshorter : ∀ other more others rest, more ≠ [] → piece = other ++ more →
      others.flatten ++ rest = more ++ (pieces.flatten ++ right) →
      ¬IsCut vocabulary (token :: tokens) left (other :: others) rest)
    (hrest : IsFirstCut vocabulary tokens (left ++ piece) pieces right) :
    IsFirstCut vocabulary (token :: tokens) left (piece :: pieces) right := by
  refine cons hpiece (fun other others rest heq hcut => ?_) hrest
  rcases List.append_eq_append_iff.1 heq with ⟨more, rfl, hmore⟩ | ⟨more, rfl, -⟩
  · by_cases hnil : more = []
    · exact Or.inl (by rw [hnil, List.append_nil])
    · exact absurd hcut (hshorter other more others rest hnil rfl hmore)
  · cases more with
    | nil => exact Or.inl (List.append_nil _)
    | cons c more =>
      -- The other piece is longer.
      refine Or.inr (hprefers ?_)
      rw [List.length_append, List.length_cons]
      omega

/-! ## Runs of characters -/

/-- A number ends where its digits end. -/
theorem number {field : Placeholder} (hfield : field = .line ∨ field = .column)
    (hne : piece ≠ []) (hdigits : ∀ c ∈ piece, isDigit c = true)
    (hend : ∀ c ∈ (pieces.flatten ++ right).head?, isDigit c = false)
    (hrest : IsFirstCut vocabulary tokens (left ++ piece) pieces right) :
    IsFirstCut vocabulary (.placeholder field :: tokens) left (piece :: pieces) right := by
  have hend' : ∀ c ∈ (pieces.flatten ++ right).head?, ¬isDigit c = true := fun c hc =>
    Bool.eq_false_iff.1 (hend c hc)
  rcases hfield with rfl | rfl
  · exact run id And.right ⟨hne, hdigits⟩ hend' hrest
  · exact run id And.right ⟨hne, hdigits⟩ hend' hrest

/-- A message ends where its line ends. -/
theorem message (hne : piece ≠ []) (hline : '\n' ∉ piece)
    (hend : ∀ c ∈ (pieces.flatten ++ right).head?, c = '\n')
    (hrest : IsFirstCut vocabulary tokens (left ++ piece) pieces right) :
    IsFirstCut vocabulary (.placeholder .message :: tokens) left (piece :: pieces) right := by
  have hclass : ∀ {other rest}, (Token.placeholder .message).Admits vocabulary left other rest →
      ∀ c ∈ other, c ≠ '\n' := by
    rintro other rest ⟨-, hother⟩ c hc rfl
    exact hother hc
  exact run id hclass ⟨hne, hline⟩ (fun c hc h => h (hend c hc)) hrest

/-- White space ends where its blanks end. -/
theorem whitespace (hne : piece ≠ []) (hblank : ∀ c ∈ piece, isBlank c = true)
    (hend : ∀ c ∈ (pieces.flatten ++ right).head?, isBlank c = false)
    (hrest : IsFirstCut vocabulary tokens (left ++ piece) pieces right) :
    IsFirstCut vocabulary (.placeholder .whitespace :: tokens) left (piece :: pieces) right :=
  run id And.right ⟨hne, hblank⟩ (fun c hc => Bool.eq_false_iff.1 (hend c hc)) hrest

/-! ## The match that is found -/

/-- A first cut that has text is the next match, if no cut that comes next begins before it. -/
theorem isNextMatch {before lead : Text} {previous : Option Match}
    (h : IsFirstCut vocabulary tokens (before ++ lead) pieces right) (hne : pieces.flatten ≠ [])
    (hbefore : before.length = resumeOffset previous)
    (hlead : ∀ offset others,
      CutAt vocabulary tokens (before ++ (lead ++ (pieces.flatten ++ right))) offset others →
      before.length ≤ offset → (before ++ lead).length ≤ offset) :
    IsNextMatch vocabulary tokens (before ++ (lead ++ (pieces.flatten ++ right))) previous
      ⟨(before ++ lead).length, pieces⟩ where
  cutAt := ⟨before ++ lead, right, by simp, rfl, h.isCut⟩
  resumeOffset_le := by
    rw [← hbefore, List.length_append]
    exact Nat.le_add_right _ _
  mayFollow := fun _ _ _ _ => hne
  first := by
    intro others hcut _
    rw [← List.append_assoc] at hcut
    obtain ⟨rest, htext, hothers⟩ := cutAt_length_iff.1 hcut
    exact h.first others rest htext.symm hothers
  leftmost := fun offset others hcut hle _ => hlead offset others hcut (hbefore ▸ hle)

end IsFirstCut

end Diagnostics
