import Diagnostics.Proofs.Admissible
import Diagnostics.Proofs.Stops

/-!
# The header of a record's line

In the line of a record the line, the column and the kind stand between the file and the message,
with the punctuation around them. A `Header` is such a text. The file and the message are free, so
the header of another cut may begin inside the file; but it does not reach out of it: two headers
that begin at one place are the same (`Header.text_append_inj`), and of two that begin at different
places the first one ends before the second one begins (`Header.exists_of_append_text_append`).
`Header.isCut_iff` says that headers are what the tokens between file and message admit.
-/

namespace Diagnostics

/-- One part of a text ends in a character that the beginning of another part does not have: the two
parts end together, or the one goes on behind the other. -/
theorem append_cons_eq_append_cons {α : Type} {x : α} {as bs cs ds : List α} (hx : x ∉ bs)
    (h : as ++ x :: cs = bs ++ x :: ds) :
    as = bs ∧ cs = ds ∨ ∃ es, as = bs ++ x :: es ∧ es ++ x :: cs = ds := by
  rcases List.append_eq_append_iff.1 h with ⟨es, hbs, hcs⟩ | ⟨es, has, hds⟩
  · cases es with
    | nil => exact Or.inl (by simpa using And.intro hbs.symm hcs)
    | cons y es =>
      obtain ⟨rfl, -⟩ := List.cons.inj hcs
      exact absurd (hbs ▸ List.mem_append_right as List.mem_cons_self) hx
  · cases es with
    | nil => exact Or.inl (by simpa using And.intro has hds.symm)
    | cons y es =>
      obtain ⟨rfl, hrest⟩ := List.cons.inj hds
      exact Or.inr ⟨es, has, hrest.symm⟩

/-- Two parts of a text that end where a character comes for the first time are the same. -/
theorem append_cons_inj {α : Type} {x : α} {as bs cs ds : List α} (has : x ∉ as) (hbs : x ∉ bs)
    (h : as ++ x :: cs = bs ++ x :: ds) : as = bs ∧ cs = ds := by
  refine (append_cons_eq_append_cons hbs h).resolve_right ?_
  rintro ⟨es, rfl, -⟩
  exact has (List.mem_append_right bs List.mem_cons_self)

/-- A character that is no letter of a word is none of a text of the same letters. -/
theorem Text.SameLetters.notMem {word piece : Text} (h : word.SameLetters piece) {c : Char}
    (hc : caselessKey c ∉ word.map caselessKey) : c ∉ piece := by
  intro hmem
  rw [show word.map caselessKey = piece.map caselessKey from h] at hc
  exact hc (List.mem_map_of_mem hmem)

/-- Digits do not include a character that is no digit. -/
theorem notMem_of_isDigit_eq_false {digits : Text} (h : ∀ c ∈ digits, isDigit c = true) {c : Char}
    (hc : isDigit c = false) : c ∉ digits := by
  intro hmem
  rw [h c hmem] at hc
  simp at hc

/-- The words of the standard vocabulary are the names of the kinds. -/
theorem Vocabulary.mem_words_standard_iff {word : Text} :
    word ∈ standard.table.words ↔ ∃ kind : Kind, word = kind.name := by
  have hwords : standard.table.words = [Kind.warning.name, Kind.error.name] := by decide
  rw [hwords, List.mem_pair]
  constructor
  · rintro (hword | hword)
    · exact ⟨.warning, hword⟩
    · exact ⟨.error, hword⟩
  · rintro ⟨_ | _, hword⟩
    · exact Or.inl hword
    · exact Or.inr hword

/-- The names of the kinds are in lower case. -/
theorem Kind.map_caselessKey_name (kind : Kind) : kind.name.map caselessKey = kind.name := by
  cases kind <;> decide +kernel

/-- The line, the column and the kind of a record as they are written. -/
@[ext] structure Header where
  /-- The digits of the line. -/
  line : Text
  /-- The digits of the column. -/
  column : Text
  /-- The word for the kind. -/
  kind : Text
  /-- The line has digits. -/
  line_ne_nil : line ≠ []
  /-- The line has nothing but digits. -/
  isDigit_line : ∀ c ∈ line, isDigit c = true
  /-- The column has digits. -/
  column_ne_nil : column ≠ []
  /-- The column has nothing but digits. -/
  isDigit_column : ∀ c ∈ column, isDigit c = true
  /-- The kind is a word of the standard vocabulary, and no part of a longer one. -/
  admits_kind : (Token.placeholder .kind).Admits Vocabulary.standard [' '] kind [':']

namespace Header

/-- The tokens of the template of records that stand between the file and the message. -/
def tokens : List Token :=
  [.literal [':'], .placeholder .line, .literal [':'], .placeholder .column, .literal [':', ' '],
   .placeholder .kind, .literal [':', ' ']]

/-- The pieces of the header, one for each of its tokens. -/
def pieces (h : Header) : List Text :=
  [[':'], h.line, [':'], h.column, [':', ' '], h.kind, [':', ' ']]

/-- The header as text. -/
def text (h : Header) : Text :=
  ':' :: (h.line ++ ':' :: (h.column ++ ':' :: ' ' :: (h.kind ++ [':', ' '])))

variable (h : Header)

/-- The pieces make up the text. -/
@[simp] theorem flatten_pieces : h.pieces.flatten = h.text := by
  simp [pieces, text]

/-- There is one piece for each token. -/
@[simp] theorem length_pieces : h.pieces.length = tokens.length := rfl

/-- A header is not empty. -/
theorem text_ne_nil : h.text ≠ [] := List.cons_ne_nil _ _

/-- The digits of the line are nothing else. -/
theorem notMem_line {c : Char} (hc : isDigit c = false) : c ∉ h.line :=
  notMem_of_isDigit_eq_false h.isDigit_line hc

/-- The digits of the column are nothing else. -/
theorem notMem_column {c : Char} (hc : isDigit c = false) : c ∉ h.column :=
  notMem_of_isDigit_eq_false h.isDigit_column hc

/-- Kinds are written in letters. -/
theorem notMem_kind {c : Char} (hc : c = ':' ∨ c = '\n') : c ∉ h.kind := by
  obtain ⟨⟨word, hword, hsame⟩, -⟩ := h.admits_kind
  obtain ⟨kind, rfl⟩ := Vocabulary.mem_words_standard_iff.1 hword
  refine hsame.notMem ?_
  have hkey : caselessKey c = c := by
    rcases hc with rfl | rfl <;> decide +kernel
  rw [hkey, kind.map_caselessKey_name]
  rcases hc with rfl | rfl <;> cases kind <;> decide

/-- A header stands on one line. -/
theorem lineFeed_notMem_text : '\n' ∉ h.text := by
  have hline := h.notMem_line (c := '\n') (by decide)
  have hcolumn := h.notMem_column (c := '\n') (by decide)
  have hkind := h.notMem_kind (c := '\n') (Or.inr rfl)
  simp [text, hline, hcolumn, hkind]

/-- Where a header begins there is no other one, and the rest of the text begins behind it. -/
theorem text_append_inj {h h' : Header} {rest rest' : Text}
    (heq : h.text ++ rest = h'.text ++ rest') : h = h' ∧ rest = rest' := by
  simp only [text, List.cons_append, List.append_assoc, List.nil_append] at heq
  obtain ⟨-, heq⟩ := List.cons.inj heq
  obtain ⟨hline, heq⟩ := append_cons_inj (h.notMem_line rfl) (h'.notMem_line rfl) heq
  obtain ⟨hcolumn, heq⟩ := append_cons_inj (h.notMem_column rfl) (h'.notMem_column rfl) heq
  obtain ⟨-, heq⟩ := List.cons.inj heq
  obtain ⟨hkind, heq⟩ :=
    append_cons_inj (h.notMem_kind (Or.inl rfl)) (h'.notMem_kind (Or.inl rfl)) heq
  obtain ⟨-, heq⟩ := List.cons.inj heq
  exact ⟨Header.ext hline hcolumn hkind, heq⟩

/-- Numerals do not begin with a space. -/
theorem append_ne_space_cons {digits s t : Text} (hne : digits ≠ [])
    (hdigits : ' ' ∉ digits) : digits ++ s ≠ ' ' :: t := by
  obtain ⟨c, digits, rfl⟩ := List.exists_cons_of_ne_nil hne
  rintro heq
  obtain ⟨rfl, -⟩ := List.cons.inj heq
  exact hdigits List.mem_cons_self

/-- Behind the place where a header begins, another one begins only behind the header. -/
theorem exists_of_append_text_append {h h' : Header} {skipped rest rest' : Text}
    (heq : skipped ++ (h.text ++ rest) = h'.text ++ rest') (hne : skipped ≠ []) :
    ∃ between, skipped = h'.text ++ between ∧ between ++ (h.text ++ rest) = rest' := by
  have hline : ∀ {s t : Text}, h.line ++ s ≠ ' ' :: t :=
    append_ne_space_cons h.line_ne_nil (h.notMem_line rfl)
  have hcolumn : ∀ {s t : Text}, h.column ++ s ≠ ' ' :: t :=
    append_ne_space_cons h.column_ne_nil (h.notMem_column rfl)
  obtain ⟨x, skipped, rfl⟩ := List.exists_cons_of_ne_nil hne
  simp only [text, List.cons_append, List.append_assoc, List.nil_append] at heq
  obtain ⟨rfl, hfromLine⟩ := List.cons.inj heq
  -- The colon that begins `h` is the one behind the line of `h'`, or behind its column, or behind
  -- its kind, or it comes later still. In the first three places no number could follow it.
  rcases append_cons_eq_append_cons (h'.notMem_line rfl) hfromLine with
    ⟨rfl, hfromColumn⟩ | ⟨skipped₂, rfl, hfromColumn⟩
  · have hspace := append_cons_inj (h.notMem_line rfl) (h'.notMem_column rfl) hfromColumn
    exact absurd hspace.2 hcolumn
  rcases append_cons_eq_append_cons (h'.notMem_column rfl) hfromColumn with
    ⟨rfl, hfromKind⟩ | ⟨skipped₃, rfl, hfromKind⟩
  · exact absurd hfromKind hline
  have hkind : ':' ∉ ' ' :: h'.kind := by
    simpa using h'.notMem_kind (Or.inl rfl)
  rcases append_cons_eq_append_cons hkind hfromKind with
    ⟨rfl, hbehind⟩ | ⟨skipped₄, rfl, hbehind⟩
  · exact absurd hbehind hline
  cases skipped₄ with
  | nil => simp at hbehind
  | cons y between =>
    obtain ⟨rfl, hrest⟩ := List.cons.inj hbehind
    exact ⟨between, by simp [text], by simpa [text] using hrest⟩

/-- The pieces that the tokens of a header admit are those of a header, whatever stands around. -/
theorem isCut_iff {left right : Text} {pieces : List Text} :
    IsCut Vocabulary.standard tokens left pieces right ↔ ∃ h : Header, pieces = h.pieces := by
  -- What stands next to the kind is part of the punctuation.
  have hadmits : ∀ {s t piece : Text}, (Token.placeholder .kind).Admits Vocabulary.standard
      (s ++ [':', ' ']) piece (':' :: ' ' :: t) ↔
        (Token.placeholder .kind).Admits Vocabulary.standard [' '] piece [':'] := by
    intro s t piece
    exact Token.admits_congr (by simp) rfl
  constructor
  · intro hcut
    rcases hcut with _ | ⟨⟨⟩, _ | ⟨hline, hcut⟩⟩
    rcases hcut with _ | ⟨⟨⟩, _ | ⟨hcolumn, hcut⟩⟩
    rcases hcut with _ | ⟨⟨⟩, _ | ⟨hkind, _ | ⟨⟨⟩, ⟨⟩⟩⟩⟩
    exact ⟨⟨_, _, _, hline.1, hline.2, hcolumn.1, hcolumn.2, hadmits.1 hkind⟩, rfl⟩
  · rintro ⟨h, rfl⟩
    have hkind := fun s t => (@hadmits s t h.kind).2 h.admits_kind
    refine .cons rfl (.cons ⟨h.line_ne_nil, h.isDigit_line⟩ (.cons rfl
      (.cons ⟨h.column_ne_nil, h.isDigit_column⟩ (.cons rfl (.cons ?_ (.cons rfl .nil))))))
    exact hkind _ _

end Header

end Diagnostics
