import Mathlib.Data.Bool.AllAny
import Diagnostics.Proofs.Anchors
import Diagnostics.Proofs.Choices
import Diagnostics.Proofs.KindWords
import Diagnostics.Proofs.LineLocality

/-!
# Messages that begin with a kind

The templates of some tools begin with the kind, so that their messages are found where a word for a
kind stands. `Kind.IsSpelled` says that a word is the name of a kind in capital and small letters;
such a word is admitted wherever no word character is next to it (`Kind.IsSpelled.admits`), and read
as the kind (`Kind.IsSpelled.kindOf_eq`). No other word for a kind begins where one stands
(`Kind.eq_of_sameLetters_of_append_eq`), so a kind in front of a first cut makes a first cut
(`IsFirstCut.kind`). Whether a text has a word for a kind is decided by a search
(`not_hasKind_iff`). `IsLeadIn` says that no kind begins in what stands in front of a message. Then
the next match is the message (`IsLeadIn.isNextMatch`), or there is none if no message follows
(`IsLeadIn.all_resume_eq_nil`).
-/

namespace Diagnostics

/-! ## Letters of kinds -/

/-- A character that is no capital ASCII letter is its own small letter. -/
theorem toLower_eq_self {c : Char} (h : c.toNat < 0x41 ∨ 0x5A < c.toNat) : c.toLower = c := by
  refine dif_neg fun hupper => ?_
  have hcapital : 0x41 ≤ c.toNat ∧ c.toNat ≤ 0x5A := by
    simpa [UInt32.le_iff_toNat_le] using hupper
  omega

/-- A capital letter and its small letter have the same key. -/
theorem caselessKey_toLower (c : Char) : caselessKey c.toLower = caselessKey c := by
  have hcapitals : ∀ n < 26, caselessKey (Char.ofNat (0x41 + n)).toLower =
      caselessKey (Char.ofNat (0x41 + n)) := by decide +kernel
  by_cases hupper : 0x41 ≤ c.toNat ∧ c.toNat ≤ 0x5A
  · have hc : Char.ofNat (0x41 + (c.toNat - 0x41)) = c := by
      rw [Nat.add_sub_cancel' hupper.1, Char.ofNat_toNat]
    have hcapital := hcapitals (c.toNat - 0x41) (by omega)
    rwa [hc] at hcapital
  · rw [toLower_eq_self (by omega)]

/-- The names of the kinds are in ASCII. -/
theorem Kind.toNat_lt_of_mem_name {kind : Kind} {c : Char} (h : c ∈ kind.name) :
    c.toNat < 0x80 := by
  have hascii : ∀ kind : Kind, kind.name.all fun c => c.toNat < 0x80 := by
    rintro (_ | _) <;> decide
  exact List.all_iff_forall_prop.1 (hascii kind) c h

/-- A character that is a letter of a kind, but for case, is a word character. -/
theorem Kind.isWordChar_of_caselessKey_mem {kind : Kind} {c : Char}
    (h : caselessKey c ∈ kind.name) : isWordChar c = true := by
  have hletters : ∀ kind : Kind, kind.name.all isWordChar = true := by
    rintro (_ | _) <;> decide +kernel
  have hvariants : ∀ kind : Kind, ∀ pair ∈ letterVariants, pair.2 ∈ kind.name →
      isWordChar pair.1 = true := by
    rintro (_ | _) <;> decide +kernel
  refine isWordChar_of_simpleLower ?_
  rcases caselessKey_cases c with hkey | hmem
  · exact List.all_eq_true.1 (hletters kind) _ (hkey ▸ h)
  · exact hvariants kind _ hmem h

/-- The characters of a word for a kind are word characters. -/
theorem Kind.isWordChar_of_sameLetters {kind : Kind} {piece : Text}
    (h : kind.name.SameLetters piece) : ∀ c ∈ piece, isWordChar c = true := by
  intro c hc
  have hmem : caselessKey c ∈ piece.map caselessKey := List.mem_map_of_mem hc
  rw [← show kind.name.map caselessKey = piece.map caselessKey from h,
    kind.map_caselessKey_name] at hmem
  exact isWordChar_of_caselessKey_mem hmem

/-- The letters of a word for a kind are the name of the kind. -/
theorem Kind.map_caselessKey_of_sameLetters {kind : Kind} {piece : Text}
    (h : kind.name.SameLetters piece) : piece.map caselessKey = kind.name :=
  (show kind.name.map caselessKey = piece.map caselessKey from h).symm.trans
    kind.map_caselessKey_name

/-- Where a word for a kind begins there is no other one. -/
theorem Kind.eq_of_sameLetters_of_append_eq {kind kind' : Kind} {piece other rest rest' : Text}
    (h : kind.name.SameLetters piece) (h' : kind'.name.SameLetters other)
    (heq : other ++ rest' = piece ++ rest) : other = piece := by
  -- The first letter tells the kind, and the kind tells the length.
  have hhead : ∀ {kind : Kind} {piece rest : Text}, kind.name.SameLetters piece →
      (piece ++ rest).head?.map caselessKey = kind.name.head? := by
    intro kind piece rest hpiece
    rw [← map_caselessKey_of_sameLetters hpiece]
    cases piece with
    | nil =>
      have hname := map_caselessKey_of_sameLetters hpiece
      cases kind <;> cases hname
    | cons c piece => rfl
  have hkind : kind.name.head? = kind'.name.head? := by
    rw [← hhead h, ← hhead h', heq]
  have hlength : other.length = piece.length := by
    rw [← h.length_eq, ← h'.length_eq]
    revert hkind
    cases kind <;> cases kind' <;> decide
  exact (List.append_inj heq hlength).1

/-! ## Spellings -/

/-- The word is the name of the kind, in any mix of capital and small ASCII letters. -/
def Kind.IsSpelled (kind : Kind) (word : Text) : Prop :=
  word.map Char.toLower = kind.name

instance (kind : Kind) (word : Text) : Decidable (kind.IsSpelled word) :=
  inferInstanceAs (Decidable (_ = _))

namespace Kind.IsSpelled

variable {kind : Kind} {word : Text} (h : kind.IsSpelled word)
include h

/-- A spelling has the letters of the name. -/
theorem sameLetters : kind.name.SameLetters word := by
  have hword : word.map Char.toLower = kind.name := h
  calc kind.name.map caselessKey = (word.map Char.toLower).map caselessKey := by rw [hword]
    _ = word.map (caselessKey ∘ Char.toLower) := List.map_map
    _ = word.map caselessKey := List.map_congr_left fun c _ => caselessKey_toLower c

/-- A spelling begins with a word character. -/
theorem any_head?_append (rest : Text) : (word ++ rest).head?.any isWordChar = true := by
  have hword := isWordChar_of_sameLetters h.sameLetters
  cases word with
  | nil => cases kind <;> cases h
  | cons c word => exact hword c List.mem_cons_self

/-- A spelling ends with a word character. -/
theorem any_getLast?_append (left : Text) : (left ++ word).getLast?.any isWordChar = true := by
  have hword := isWordChar_of_sameLetters h.sameLetters
  rcases List.eq_nil_or_concat' word with rfl | ⟨init, c, rfl⟩
  · cases kind <;> cases h
  · rw [← List.append_assoc, List.getLast?_concat]
    exact hword c (List.mem_append_right init List.mem_cons_self)

/-- A spelling is not empty. -/
theorem ne_nil : word ≠ [] := by
  rintro rfl
  cases kind <;> cases h

/-- A spelling is admitted where no word characters are next to it. -/
theorem admits {left right : Text} (hleft : left.getLast?.any isWordChar = false)
    (hright : right.head?.any isWordChar = false) :
    (Token.placeholder .kind).Admits Vocabulary.standard left word right := by
  refine ⟨⟨kind.name, Vocabulary.mem_words_standard_iff.2 ⟨kind, rfl⟩, h.sameLetters⟩, ?_, ?_⟩
  · rw [isWordBoundary, hleft, h.any_head?_append]
    rfl
  · rw [isWordBoundary, hright, h.any_getLast?_append]
    rfl

/-- A spelling has the name for its lower-case form. -/
theorem lower_eq : word.lower = kind.name := by
  have hlower : ∀ kind : Kind, kind.name.all fun c => simpleLower c = c := by
    rintro (_ | _) <;> decide +kernel
  -- A character that is no capital letter is in the spelling only if it is in the name.
  have hnotMem : ∀ c : Char, c.toLower ∉ kind.name → c ∉ word := by
    intro c hc hmem
    have hmap : c.toLower ∈ word.map Char.toLower := List.mem_map_of_mem hmem
    rw [show word.map Char.toLower = kind.name from h] at hmap
    exact hc hmap
  rw [Text.lower_eq_iff_sameLetters (fun c => Kind.toNat_lt_of_mem_name)
    (List.all_iff_forall_prop.1 (hlower kind))]
  refine ⟨h.sameLetters, hnotMem _ ?_, hnotMem _ ?_, hnotMem _ ?_⟩
  all_goals cases kind <;> decide

/-- A spelling is read as the kind. -/
theorem kindOf_eq (matched : Text) : Vocabulary.standard.kindOf word matched = .ok kind := by
  have hfind : Vocabulary.standard.find? word = some kind := by
    unfold Vocabulary.find?
    rw [h.lower_eq]
    cases kind <;> decide +kernel
  rw [Vocabulary.kindOf, hfind]

end Kind.IsSpelled

/-! ## Where kinds begin -/

/-- A word for a kind stands in the text, with no word characters next to it. -/
def HasKind (t : Text) : Prop :=
  ∃ offset pieces, CutAt Vocabulary.standard [.placeholder .kind] t offset pieces

/-- A text has no word for a kind exactly when the pattern of the kind does not match in it. -/
theorem not_hasKind_iff {t : Text} : ¬HasKind t ↔
    (Template.pattern ⟨[.placeholder .kind]⟩ Vocabulary.standard).findAll t = [] := by
  have hstart : resumeOffset none ≤ t.length := Nat.zero_le _
  refine Iff.trans ?_ (all_resume_eq_nil_iff hstart (List.cons_ne_nil _ _)).symm
  constructor
  · intro h offset pieces hfollows
    exact h ⟨offset, pieces, hfollows.cutAt⟩
  · rintro h ⟨offset, pieces, hcut⟩
    exact h offset pieces ⟨hcut, Nat.zero_le _, nofun⟩

instance (t : Text) : Decidable (HasKind t) :=
  decidable_of_iff (¬(Template.pattern ⟨[.placeholder .kind]⟩ Vocabulary.standard).findAll t = [])
    (not_iff_comm.1 not_hasKind_iff)

/-- A piece for a kind is a word for a kind. -/
theorem Token.Admits.kind {left piece right : Text}
    (h : (Token.placeholder .kind).Admits Vocabulary.standard left piece right) :
    ∃ kind : Kind, kind.name.SameLetters piece := by
  obtain ⟨⟨word, hword, hsame⟩, -⟩ := h
  obtain ⟨kind, rfl⟩ := Vocabulary.mem_words_standard_iff.1 hword
  exact ⟨kind, hsame⟩

section

variable {tokens : List Token} {before lead left piece right t : Text} {pieces : List Text}

/-- The piece for the first token of a cut is a cut for this token. -/
theorem CutAt.head {vocabulary : Vocabulary} {token : Token} {text : Text} {offset : Nat}
    (h : CutAt vocabulary (token :: tokens) text offset pieces) :
    ∃ piece, CutAt vocabulary [token] text offset [piece] := by
  obtain ⟨left, right, rfl, rfl, hcut⟩ := h
  cases hcut with
  | @cons _ _ _ piece _ pieces hpiece _ =>
    refine ⟨piece, left, pieces.flatten ++ right, by simp, rfl, .cons ?_ .nil⟩
    exact hpiece

/-- A cut whose first token is the kind has text. -/
theorem CutAt.flatten_ne_nil_of_kind {vocabulary : Vocabulary} {text : Text} {offset : Nat}
    (h : CutAt vocabulary (.placeholder .kind :: tokens) text offset pieces) :
    pieces.flatten ≠ [] := by
  obtain ⟨left, right, -, -, hcut⟩ := h
  cases hcut with
  | cons hpiece _ =>
    have hne := hpiece.ne_nil rfl nofun
    exact List.append_ne_nil_of_left_ne_nil hne _

/-- A kind in front of a first cut makes a first cut. -/
theorem IsFirstCut.kind
    (hpiece : (Token.placeholder .kind).Admits Vocabulary.standard left piece
      (pieces.flatten ++ right))
    (hrest : IsFirstCut Vocabulary.standard tokens (left ++ piece) pieces right) :
    IsFirstCut Vocabulary.standard (.placeholder .kind :: tokens) left (piece :: pieces) right := by
  refine cons hpiece (fun other others rest heq hcut => Or.inl ?_) hrest
  obtain ⟨kind, hsame⟩ := hpiece.kind
  obtain ⟨kind', hsame'⟩ := (IsCut.cons_iff.1 hcut).1.kind
  exact Kind.eq_of_sameLetters_of_append_eq hsame hsame' heq

/-- The characters that are no word characters part the places where kinds begin. -/
theorem cutAt_kind_append_cons_iff {x : Char} (hx : isWordChar x = false) {offset : Nat} :
    CutAt Vocabulary.standard [.placeholder .kind] (before ++ x :: t) offset pieces ↔
      CutAt Vocabulary.standard [.placeholder .kind] before offset pieces ∨
        ∃ o, offset = before.length + 1 + o ∧
          CutAt Vocabulary.standard [.placeholder .kind] t o pieces := by
  refine cutAt_append_cons_iff hx fun left pieces right hcut hmem => ?_
  rcases hcut with _ | ⟨hpiece, ⟨⟩⟩
  obtain ⟨kind, hsame⟩ := hpiece.kind
  rw [List.flatten_cons, List.flatten_nil, List.append_nil] at hmem
  rw [Kind.isWordChar_of_sameLetters hsame x hmem] at hx
  cases hx

/-- If no kind begins in the rest of a text but at its very end, no match is left. -/
theorem all_resume_eq_nil_of_kind {vocabulary : Vocabulary} {previous : Option Match}
    (hle : resumeOffset previous ≤ t.length)
    (hcuts : ∀ offset pieces, CutAt vocabulary [.placeholder .kind] t offset pieces →
      resumeOffset previous ≤ offset → t.length ≤ offset) :
    (Scan.resume t previous).all
      (Template.pattern ⟨.placeholder .kind :: tokens⟩ vocabulary) = [] := by
  refine (all_resume_eq_nil_iff hle (List.cons_ne_nil _ _)).2 fun offset pieces hfollows => ?_
  obtain ⟨piece, hpiece⟩ := hfollows.cutAt.head
  have hend := hcuts offset _ hpiece hfollows.resumeOffset_le
  -- The match would have text behind the end.
  obtain ⟨hstop, -⟩ := hfollows.cutAt.extract_eq
  have hpos := List.length_pos_iff.2 hfollows.cutAt.flatten_ne_nil_of_kind
  omega

/-- In what stands in front of a message, behind a part of the text that is done, no kind begins,
whatever the message is; and a kind may begin behind it. -/
structure IsLeadIn (before lead : Text) : Prop where
  /-- Whatever follows, a kind that begins in the rest of the text begins behind the lead-in. -/
  le_of_cutAt : ∀ t offset pieces,
    CutAt Vocabulary.standard [.placeholder .kind] (before ++ (lead ++ t)) offset pieces →
    before.length ≤ offset → (before ++ lead).length ≤ offset
  /-- The lead-in does not end with a word character. -/
  any_getLast? : (before ++ lead).getLast?.any isWordChar = false

namespace IsLeadIn

/-- A text without a kind that does not end with a word character leads in. -/
theorem of_not_hasKind (h : ¬HasKind lead) (hlast : lead.getLast?.any isWordChar = false) :
    IsLeadIn [] lead where
  le_of_cutAt := by
    intro t offset pieces hcut _
    rcases List.eq_nil_or_concat' lead with rfl | ⟨init, x, rfl⟩
    · exact Nat.zero_le offset
    · rw [List.getLast?_concat] at hlast
      rw [List.nil_append, List.append_assoc, List.singleton_append] at hcut
      rcases (cutAt_kind_append_cons_iff hlast).1 hcut with hinit | ⟨o, rfl, -⟩
      · exact absurd ⟨_, _, (cutAt_kind_append_cons_iff hlast).2 (Or.inl hinit)⟩ h
      · rw [List.nil_append, List.length_append, List.length_singleton]
        exact Nat.le_add_right _ o
  any_getLast? := hlast

/-- It does so too behind a character that is no word character, behind any text. -/
theorem cons {x : Char} (hx : isWordChar x = false) (h : IsLeadIn [] lead) :
    IsLeadIn before (x :: lead) where
  le_of_cutAt := by
    intro t offset pieces hcut hle
    rw [List.cons_append] at hcut
    rcases (cutAt_kind_append_cons_iff hx).1 hcut with hbefore | ⟨o, rfl, ht⟩
    · -- No kind begins at the end of the text before, since it would be empty.
      obtain ⟨hstop, -⟩ := hbefore.extract_eq
      have hpos := List.length_pos_iff.2 hbefore.flatten_ne_nil_of_kind
      omega
    · have hlead := h.le_of_cutAt t o pieces ht (Nat.zero_le o)
      rw [List.nil_append] at hlead
      rw [List.length_append, List.length_cons]
      omega
  any_getLast? := (any_getLast?_append_cons hx).trans h.any_getLast?

variable {previous : Option Match}

/-- Behind a lead-in a message that is a first cut is the next match. -/
theorem isNextMatch (hlead : IsLeadIn before lead)
    (hbefore : before.length = resumeOffset previous)
    (h : IsFirstCut Vocabulary.standard (.placeholder .kind :: tokens) (before ++ lead) pieces
      right) :
    IsNextMatch Vocabulary.standard (.placeholder .kind :: tokens)
      (before ++ (lead ++ (pieces.flatten ++ right))) previous
      ⟨(before ++ lead).length, pieces⟩ := by
  have hne : pieces.flatten ≠ [] := by
    have hcut : CutAt Vocabulary.standard (.placeholder .kind :: tokens)
        (before ++ lead ++ (pieces.flatten ++ right)) (before ++ lead).length pieces :=
      cutAt_length_iff.2 ⟨right, rfl, h.isCut⟩
    exact hcut.flatten_ne_nil_of_kind
  refine h.isNextMatch hne hbefore fun offset others hcut hle => ?_
  obtain ⟨piece, hpiece⟩ := hcut.head
  exact hlead.le_of_cutAt _ offset _ hpiece hle

/-- If no message follows a lead-in, no match is left. -/
theorem all_resume_eq_nil (hlead : IsLeadIn before lead)
    (hbefore : before.length = resumeOffset previous) :
    (Scan.resume (before ++ lead) previous).all
      (Template.pattern ⟨.placeholder .kind :: tokens⟩ Vocabulary.standard) = [] := by
  have hle : resumeOffset previous ≤ (before ++ lead).length := by
    rw [← hbefore, List.length_append]
    exact Nat.le_add_right _ _
  refine all_resume_eq_nil_of_kind hle fun offset pieces hcut hoffset => ?_
  exact hlead.le_of_cutAt [] offset pieces (by simpa using hcut) (hbefore ▸ hoffset)

end IsLeadIn

end

end Diagnostics
