import Mathlib.Data.List.Basic
import Diagnostics.Template.Basic
import Diagnostics.Pattern.Search

/-!
# Admissible cuts of a text

What a template describes, said without a search. `Token.Admits` is the language of a token at a
place in a text. `IsCut` says that pieces, one admissible piece for each token, stand one after the
other between two texts, and `CutAt` that they do so from an offset of a text on. Several cuts may
begin at one place; `Precedes` compares two of them by the first token that they give different
pieces (`Token.Prefers`).
-/

namespace Diagnostics

/-- The two texts are the same letters one by one, but for case. -/
def Text.SameLetters (word piece : Text) : Prop :=
  word.map caselessKey = piece.map caselessKey

instance (word piece : Text) : Decidable (Text.SameLetters word piece) :=
  inferInstanceAs (Decidable (_ = _))

/-- Whether a text ends in a word character, when another text stands in front of it. -/
theorem any_getLast?_append {left left' piece : Text}
    (h : left.getLast?.any isWordChar = left'.getLast?.any isWordChar) :
    (left ++ piece).getLast?.any isWordChar = (left' ++ piece).getLast?.any isWordChar := by
  rw [List.getLast?_append, List.getLast?_append]
  cases piece.getLast? with
  | none => exact h
  | some c => rfl

/-- Whether a text begins with a word character, when another text stands behind it. -/
theorem any_head?_append {piece right right' : Text}
    (h : right.head?.any isWordChar = right'.head?.any isWordChar) :
    (piece ++ right).head?.any isWordChar = (piece ++ right').head?.any isWordChar := by
  rw [List.head?_append, List.head?_append]
  cases piece.head? with
  | none => exact h
  | some c => rfl

namespace Token

/-- The token describes `piece` where it stands between `left` and `right`. The words for kinds are
those of the vocabulary; only they depend on what stands around the piece. -/
def Admits (vocabulary : Vocabulary) (token : Token) (left piece right : Text) : Prop :=
  match token with
  | placeholder .file => piece ≠ [] ∧ '\x00' ∉ piece ∧ '\n' ∉ piece
  | placeholder .line => piece ≠ [] ∧ ∀ c ∈ piece, isDigit c = true
  | placeholder .column => piece ≠ [] ∧ ∀ c ∈ piece, isDigit c = true
  | placeholder .kind =>
    (∃ word ∈ vocabulary.table.words, word.SameLetters piece) ∧
      isWordBoundary left.getLast? (piece ++ right).head? = true ∧
      isWordBoundary (left ++ piece).getLast? right.head? = true
  | placeholder .message => piece ≠ [] ∧ '\n' ∉ piece
  | placeholder .whitespace => piece ≠ [] ∧ ∀ c ∈ piece, isBlank c = true
  | placeholder .wildcard => '\n' ∉ piece
  | literal text => piece = text

instance (vocabulary : Vocabulary) (token : Token) (left piece right : Text) :
    Decidable (token.Admits vocabulary left piece right) :=
  match token with
  | placeholder .file => inferInstanceAs (Decidable (_ ∧ _ ∧ _))
  -- The characters of the piece are tried one by one, and not all characters that there are.
  | placeholder .line => @instDecidableAnd _ _ inferInstance (List.decidableBAll _ _)
  | placeholder .column => @instDecidableAnd _ _ inferInstance (List.decidableBAll _ _)
  | placeholder .kind => inferInstanceAs (Decidable (_ ∧ _ ∧ _))
  | placeholder .message => inferInstanceAs (Decidable (_ ∧ _))
  | placeholder .whitespace => @instDecidableAnd _ _ inferInstance (List.decidableBAll _ _)
  | placeholder .wildcard => inferInstanceAs (Decidable (_ ∉ _))
  | literal _ => inferInstanceAs (Decidable (_ = _))

/-- Of the text around a piece it only makes a difference whether the two characters next to it are
word characters. -/
theorem admits_congr {vocabulary : Vocabulary} {token : Token}
    {left left' piece right right' : Text}
    (hleft : left.getLast?.any isWordChar = left'.getLast?.any isWordChar)
    (hright : right.head?.any isWordChar = right'.head?.any isWordChar) :
    token.Admits vocabulary left piece right ↔ token.Admits vocabulary left' piece right' := by
  rcases token with (_ | _ | _ | _ | _ | _ | _) | _
  case placeholder.kind =>
    simp only [Admits, isWordBoundary, any_getLast?_append hleft, any_head?_append hright, hleft,
      hright]
  all_goals exact Iff.rfl

/-- Whether the token, given the choice, takes a piece of `m` characters rather than one of `n`. A
file and a wildcard take the shorter one, every other placeholder the longer one; a literal has no
choice. -/
def PrefersLength (token : Token) (m n : Nat) : Prop :=
  match token with
  | placeholder .file => m < n
  | placeholder .wildcard => m < n
  | placeholder _ => n < m
  | literal _ => False

/-- Whether the token takes `piece` rather than `other`. -/
def Prefers (token : Token) (piece other : Text) : Prop :=
  token.PrefersLength piece.length other.length

/-- What stands in front of both pieces makes no difference to the choice. -/
theorem prefersLength_add_iff {token : Token} {k m n : Nat} :
    token.PrefersLength (k + m) (k + n) ↔ token.PrefersLength m n := by
  rcases token with (_ | _ | _ | _ | _ | _ | _) | _ <;> simp [PrefersLength]

/-- A token that takes a piece rather than another one does not take that other one rather than
it. -/
theorem PrefersLength.asymm {token : Token} {m n : Nat} (h : token.PrefersLength m n) :
    ¬token.PrefersLength n m := by
  rcases token with (_ | _ | _ | _ | _ | _ | _) | _ <;> simp only [PrefersLength] at h ⊢ <;> omega

/-- A token that takes one piece rather than another one has two different pieces to choose from. -/
theorem Prefers.ne {token : Token} {piece other : Text} (h : token.Prefers piece other) :
    piece ≠ other := by
  rintro rfl
  exact h.asymm h

end Token

/-- The pieces stand one after the other between `left` and `right`, and each of them is admitted by
its token. -/
inductive IsCut (vocabulary : Vocabulary) : List Token → Text → List Text → Text → Prop where
  /-- Without tokens there are no pieces. -/
  | nil {left right : Text} : IsCut vocabulary [] left [] right
  /-- The first piece is admitted where it stands, and what follows is cut for the other tokens. -/
  | cons {token : Token} {tokens : List Token} {left piece right : Text} {pieces : List Text} :
    token.Admits vocabulary left piece (pieces.flatten ++ right) →
    IsCut vocabulary tokens (left ++ piece) pieces right →
    IsCut vocabulary (token :: tokens) left (piece :: pieces) right

/-- The pieces, one admissible piece for each token, stand in the text from `offset` on. -/
def CutAt (vocabulary : Vocabulary) (tokens : List Token) (text : Text) (offset : Nat)
    (pieces : List Text) : Prop :=
  ∃ left right, text = left ++ pieces.flatten ++ right ∧ left.length = offset ∧
    IsCut vocabulary tokens left pieces right

/-- At the first token that `pieces` and `others` give different pieces, the token takes that of
`pieces` rather than that of `others`. -/
inductive Precedes : List Token → List Text → List Text → Prop where
  /-- The first token chooses. -/
  | head {token : Token} {tokens : List Token} {piece other : Text} {pieces others : List Text} :
    token.Prefers piece other → Precedes (token :: tokens) (piece :: pieces) (other :: others)
  /-- The first token has the same piece in both, and a later one chooses. -/
  | tail {token : Token} {tokens : List Token} {piece : Text} {pieces others : List Text} :
    Precedes tokens pieces others → Precedes (token :: tokens) (piece :: pieces) (piece :: others)

namespace IsCut

variable {vocabulary : Vocabulary} {token : Token} {tokens : List Token} {left piece right : Text}
  {pieces : List Text}

/-- A cut for a first token and others is a piece for the first one and a cut for the others. -/
theorem cons_iff : IsCut vocabulary (token :: tokens) left (piece :: pieces) right ↔
    token.Admits vocabulary left piece (pieces.flatten ++ right) ∧
      IsCut vocabulary tokens (left ++ piece) pieces right := by
  constructor
  · rintro (_ | ⟨hpiece, hpieces⟩)
    exact ⟨hpiece, hpieces⟩
  · rintro ⟨hpiece, hpieces⟩
    exact .cons hpiece hpieces

/-- A cut for some tokens and others is a cut for the ones and behind it a cut for the others. -/
theorem append_iff {others : List Token} : IsCut vocabulary (tokens ++ others) left pieces right ↔
    ∃ first last, pieces = first ++ last ∧
      IsCut vocabulary tokens left first (last.flatten ++ right) ∧
      IsCut vocabulary others (left ++ first.flatten) last right := by
  induction tokens generalizing left pieces with
  | nil =>
    constructor
    · intro h
      exact ⟨[], pieces, rfl, .nil, by simpa using h⟩
    · rintro ⟨_, last, rfl, ⟨⟩, h⟩
      simpa using h
  | cons token tokens ih =>
    constructor
    · rintro (_ | ⟨hpiece, hpieces⟩)
      obtain ⟨first, last, rfl, hfirst, hlast⟩ := ih.1 hpieces
      refine ⟨_ :: first, last, rfl, .cons ?_ hfirst, ?_⟩
      · simpa using hpiece
      · simpa using hlast
    · rintro ⟨_, last, rfl, _ | ⟨hpiece, hfirst⟩, hlast⟩
      refine .cons ?_ (ih.2 ⟨_, last, rfl, hfirst, ?_⟩)
      · simpa using hpiece
      · simpa using hlast

/-- A cut has one piece for each token. -/
theorem length_eq (h : IsCut vocabulary tokens left pieces right) :
    pieces.length = tokens.length := by
  induction h with
  | nil => rfl
  | cons _ _ ih => rw [List.length_cons, List.length_cons, ih]

/-- Every token admits its piece where it stands. -/
theorem admits (h : IsCut vocabulary tokens left pieces right) {i : Nat}
    (htoken : tokens[i]? = some token) (hpiece : pieces[i]? = some piece) :
    token.Admits vocabulary (left ++ (pieces.take i).flatten) piece
      ((pieces.drop (i + 1)).flatten ++ right) := by
  induction h generalizing i with
  | nil => simp at htoken
  | cons hfirst _ ih =>
    cases i with
    | zero =>
      obtain ⟨rfl, rfl⟩ : _ = token ∧ _ = piece := by simpa using And.intro htoken hpiece
      simpa using hfirst
    | succ i => simpa using ih htoken hpiece

/-- Of the text around a cut it only makes a difference whether the two characters next to it are
word characters. -/
theorem congr {left' right' : Text} (h : IsCut vocabulary tokens left pieces right)
    (hleft : left.getLast?.any isWordChar = left'.getLast?.any isWordChar)
    (hright : right.head?.any isWordChar = right'.head?.any isWordChar) :
    IsCut vocabulary tokens left' pieces right' := by
  induction h generalizing left' with
  | nil => exact .nil
  | cons hpiece _ ih =>
    refine .cons ((Token.admits_congr hleft (any_head?_append hright)).1 hpiece) (ih ?_ hright)
    exact any_getLast?_append hleft

/-- Every token admits the piece that belongs to it, between some texts. -/
theorem exists_admits_of_mem_zip (h : IsCut vocabulary tokens left pieces right)
    (hmem : (token, piece) ∈ tokens.zip pieces) :
    ∃ left' right', token.Admits vocabulary left' piece right' := by
  induction h with
  | nil => simp at hmem
  | cons hfirst _ ih =>
    rw [List.zip_cons_cons] at hmem
    rcases List.mem_cons.1 hmem with heq | hmem
    · obtain ⟨rfl, rfl⟩ := Prod.mk.inj heq
      exact ⟨_, _, hfirst⟩
    · exact ih hmem

instance decidable (vocabulary : Vocabulary) : (tokens : List Token) → (left : Text) →
    (pieces : List Text) → (right : Text) → Decidable (IsCut vocabulary tokens left pieces right)
  | [], _, [], _ => isTrue .nil
  | [], _, _ :: _, _ => isFalse nofun
  | _ :: _, _, [], _ => isFalse nofun
  | _ :: tokens, left, piece :: pieces, right =>
    have := decidable vocabulary tokens (left ++ piece) pieces right
    decidable_of_iff _ cons_iff.symm

end IsCut

/-- A cut of a text has one piece for each token. -/
theorem CutAt.length_eq {vocabulary : Vocabulary} {tokens : List Token} {text : Text}
    {offset : Nat} {pieces : List Text} (h : CutAt vocabulary tokens text offset pieces) :
    pieces.length = tokens.length := by
  obtain ⟨left, right, -, -, hcut⟩ := h
  exact hcut.length_eq

/-- A cut of a text makes up the text from its offset on. -/
theorem CutAt.extract_eq {vocabulary : Vocabulary} {tokens : List Token} {text : Text}
    {offset : Nat} {pieces : List Text} (h : CutAt vocabulary tokens text offset pieces) :
    offset + pieces.flatten.length ≤ text.length ∧
      (text.drop offset).take pieces.flatten.length = pieces.flatten := by
  obtain ⟨left, right, rfl, rfl, -⟩ := h
  constructor
  · rw [List.length_append, List.length_append]
    omega
  · rw [List.append_assoc, List.drop_left, List.take_left]

/-- Every token admits its piece at the place of the text where the pieces before it end. -/
theorem CutAt.admits {vocabulary : Vocabulary} {tokens : List Token} {text : Text} {offset : Nat}
    {pieces : List Text} (h : CutAt vocabulary tokens text offset pieces) {i : Nat} {token : Token}
    {piece : Text} (htoken : tokens[i]? = some token) (hpiece : pieces[i]? = some piece) :
    token.Admits vocabulary (text.take (offset + (pieces.take i).flatten.length)) piece
      (text.drop (offset + (pieces.take (i + 1)).flatten.length)) := by
  obtain ⟨left, right, rfl, rfl, hcut⟩ := h
  have hadmits := hcut.admits htoken hpiece
  have htake : pieces.take (i + 1) = pieces.take i ++ [piece] := by
    rw [List.take_add_one, hpiece]
    rfl
  have hflatten : pieces.flatten =
      (pieces.take i).flatten ++ (piece ++ (pieces.drop (i + 1)).flatten) := by
    calc pieces.flatten = (pieces.take (i + 1) ++ pieces.drop (i + 1)).flatten := by
          rw [List.take_append_drop]
      _ = (pieces.take i).flatten ++ (piece ++ (pieces.drop (i + 1)).flatten) := by
          rw [htake]; simp
  have hleft : left.length + (pieces.take i).flatten.length =
      (left ++ (pieces.take i).flatten).length := by rw [List.length_append]
  have hright : left.length + (pieces.take (i + 1)).flatten.length =
      (left ++ (pieces.take i).flatten ++ piece).length := by rw [htake]; simp
  have htext : left ++ pieces.flatten ++ right =
      (left ++ (pieces.take i).flatten) ++ (piece ++ ((pieces.drop (i + 1)).flatten ++ right)) := by
    rw [hflatten]; simp
  rw [hleft, hright, htext, List.take_left, ← List.append_assoc _ piece, List.drop_left]
  exact hadmits

/-- The cuts of a text from an offset on, where the text is already parted before that offset. -/
theorem cutAt_append_iff {vocabulary : Vocabulary} {tokens : List Token} {left t : Text}
    {offset : Nat} {pieces : List Text} (h : left.length ≤ offset) :
    CutAt vocabulary tokens (left ++ t) offset pieces ↔ ∃ skipped right,
      t = skipped ++ (pieces.flatten ++ right) ∧ (left ++ skipped).length = offset ∧
        IsCut vocabulary tokens (left ++ skipped) pieces right := by
  constructor
  · rintro ⟨left', right, ht, rfl, hcut⟩
    rw [List.append_assoc] at ht
    obtain ⟨skipped, rfl⟩ : left <+: left' :=
      List.prefix_of_prefix_length_le (List.prefix_append _ _) ⟨_, ht.symm⟩ h
    rw [List.append_assoc] at ht
    exact ⟨skipped, right, List.append_cancel_left ht, rfl, hcut⟩
  · rintro ⟨skipped, right, rfl, hlength, hcut⟩
    exact ⟨left ++ skipped, right, by simp, hlength, hcut⟩

/-- The cuts of a text from an offset on, where the text is already parted at that offset. -/
theorem cutAt_length_iff {vocabulary : Vocabulary} {tokens : List Token} {left t : Text}
    {pieces : List Text} : CutAt vocabulary tokens (left ++ t) left.length pieces ↔
      ∃ right, t = pieces.flatten ++ right ∧ IsCut vocabulary tokens left pieces right := by
  rw [cutAt_append_iff (Nat.le_refl _)]
  constructor
  · rintro ⟨skipped, right, rfl, hlength, hcut⟩
    obtain rfl : skipped = [] := by simpa using hlength
    exact ⟨right, rfl, by simpa using hcut⟩
  · rintro ⟨right, rfl, hcut⟩
    exact ⟨[], right, rfl, by simp, by simpa using hcut⟩

/-- One cut precedes another one by the first token or by a later one. -/
theorem precedes_cons_iff {token : Token} {tokens : List Token} {piece other : Text}
    {pieces others : List Text} : Precedes (token :: tokens) (piece :: pieces) (other :: others) ↔
      token.Prefers piece other ∨ piece = other ∧ Precedes tokens pieces others := by
  constructor
  · rintro (hprefers | hprecedes)
    · exact Or.inl hprefers
    · exact Or.inr ⟨rfl, hprecedes⟩
  · rintro (hprefers | ⟨rfl, hprecedes⟩)
    · exact .head hprefers
    · exact .tail hprecedes

/-- Of two cuts that begin with the same pieces, the one precedes the other by what follows. -/
theorem precedes_append_iff {tokens tokens' : List Token} {pieces rest rest' : List Text}
    (h : pieces.length = tokens.length) :
    Precedes (tokens ++ tokens') (pieces ++ rest) (pieces ++ rest') ↔
      Precedes tokens' rest rest' := by
  induction tokens generalizing pieces with
  | nil =>
    obtain rfl := List.length_eq_zero_iff.1 h
    exact Iff.rfl
  | cons token tokens ih =>
    obtain ⟨piece, pieces, rfl⟩ := List.exists_cons_of_length_eq_add_one h
    simp only [List.cons_append, precedes_cons_iff, true_and, ih (Nat.succ.inj h)]
    exact or_iff_right fun hprefers => hprefers.ne rfl

/-- Of two cuts only one precedes the other. -/
theorem Precedes.asymm {tokens : List Token} {pieces others : List Text}
    (h : Precedes tokens pieces others) : ¬Precedes tokens others pieces := by
  induction h with
  | head hprefers =>
    rintro (hprefers' | _)
    · exact hprefers.asymm hprefers'
    · exact hprefers.ne rfl
  | tail _ ih =>
    rintro (hprefers | hprecedes)
    · exact hprefers.ne rfl
    · exact ih hprecedes

end Diagnostics
