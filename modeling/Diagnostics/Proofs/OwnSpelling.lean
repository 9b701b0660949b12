import Diagnostics.Proofs.LeadingKind

/-!
# Words in the spelling of their author

A vocabulary keeps the lower-case forms of its words, and it is these that are sought. The lower-case
form of a word begins and ends with a word character only if the word itself does
(`HasWordEdges.of_lower`), and it has the letters of the word, one by one, unless the word has the
capital I with a dot, which becomes two characters (`Text.sameLetters_lower_iff`). So in a text that
is nothing but the word as its author spelled it, the word is found whole when the vocabulary has a
word of the same letters, and only then (`findAll_kind_iff`); without the capital I with a dot its
own lower-case form is one. With it there may be none, and the word goes unseen in its own spelling
(`parse_own_spelling_capital_i_with_dot`).
-/

namespace Diagnostics

/-! ## Lower-case forms and their words -/

/-- A character is a word character if one of its lower-case form is. -/
theorem isWordChar_of_mem_lowerChar {before after : Text} {c d : Char}
    (hd : d ∈ lowerChar before c after) (h : isWordChar d = true) : isWordChar c = true := by
  have hsigma : isWordChar '\u03A3' = true := by decide +kernel
  have hdot : isWordChar '\u0130' = true := by decide +kernel
  unfold lowerChar at hd
  split at hd
  · rename_i hc
    rw [hc, hsigma]
  · split at hd
    · rename_i hc
      rw [hc, hdot]
    · rw [List.mem_singleton.1 hd] at h
      exact isWordChar_of_simpleLower h

/-- Every character has a lower-case form. -/
theorem lowerChar_ne_nil (before : Text) (c : Char) (after : Text) :
    lowerChar before c after ≠ [] := by
  unfold lowerChar
  split
  · exact List.cons_ne_nil _ _
  · split <;> exact List.cons_ne_nil _ _

namespace Text

/-- The lower-case form of a text ends with that of its last character. -/
theorem exists_lowerAfter_concat (before t : Text) (c : Char) : ∃ first before',
    lowerAfter before (t ++ [c]) = first ++ lowerChar before' c [] := by
  induction t generalizing before with
  | nil => exact ⟨[], before, List.append_nil _⟩
  | cons d t ih =>
    obtain ⟨first, before', hlower⟩ := ih (d :: before)
    exact ⟨lowerChar before d (t ++ [c]) ++ first, before', by
      rw [List.cons_append, lowerAfter, hlower, List.append_assoc]⟩

/-- The lower-case form of a text is longer by one character for each capital I with a dot. -/
theorem length_lower (t : Text) : t.lower.length = t.length + t.count '\u0130' := by
  suffices h : ∀ before, (lowerAfter before t).length = t.length + t.count '\u0130' from h []
  have hdot : '\u0130' ≠ '\u03A3' := by decide
  induction t with
  | nil => exact fun before => rfl
  | cons c t ih =>
    intro before
    rw [lowerAfter, List.length_append, ih, List.length_cons, List.count_cons, lowerChar]
    by_cases hc : c = '\u0130'
    · subst hc
      rw [if_neg hdot, if_pos rfl]
      simp
      omega
    · simp only [hc, if_false, beq_iff_eq]
      split <;> simp <;> omega

/-- The lower-case form of a text has the letters of the text, one by one, exactly when the text has
no capital I with a dot. -/
theorem sameLetters_lower_iff {t : Text} : t.lower.SameLetters t ↔ '\u0130' ∉ t := by
  constructor
  · intro hsame
    have hlength := hsame.length_eq
    rw [length_lower] at hlength
    exact List.count_eq_zero.1 (by omega)
  · suffices h : ∀ before, '\u0130' ∉ t → (lowerAfter before t).SameLetters t from h []
    have hsigma : ∀ isFinal : Bool,
        caselessKey (if isFinal then '\u03C2' else '\u03C3') = caselessKey '\u03A3' := by
      decide +kernel
    induction t with
    | nil => exact fun before _ => rfl
    | cons c t ih =>
      intro before hdot
      obtain ⟨hc, ht⟩ := not_or.1 (mt List.mem_cons.2 hdot)
      have hrest := ih (c :: before) ht
      rw [lowerAfter, lowerChar, if_neg (Ne.symm hc)]
      have hkey : ∀ d, caselessKey d = caselessKey c →
          SameLetters ([d] ++ lowerAfter (c :: before) t) (c :: t) := by
        intro d hd
        rw [SameLetters, List.singleton_append, List.map_cons, List.map_cons, hd, hrest]
      split
      · rename_i hc'
        exact hkey _ (hc' ▸ hsigma _)
      · refine hkey _ ?_
        unfold caselessKey
        rw [simpleLower_simpleLower]

end Text

/-- A word has word edges if its lower-case form has them. -/
theorem HasWordEdges.of_lower {word : Text} (h : HasWordEdges word.lower) : HasWordEdges word := by
  constructor
  · cases word with
    | nil => exact h.1
    | cons c t =>
      obtain ⟨d, rest, hlower⟩ := List.exists_cons_of_ne_nil (lowerChar_ne_nil [] c t)
      have hhead := h.1
      rw [Text.lower, Text.lowerAfter, hlower] at hhead
      exact isWordChar_of_mem_lowerChar (hlower ▸ List.mem_cons_self) hhead
  · rcases List.eq_nil_or_concat' word with rfl | ⟨t, c, rfl⟩
    · exact h.2
    · obtain ⟨first, before, hlower⟩ := Text.exists_lowerAfter_concat [] t c
      have hne := lowerChar_ne_nil before c []
      have hlast := h.2
      rw [Text.lower, hlower, List.getLast?_append_of_ne_nil _ hne,
        List.getLast?_eq_some_getLast hne] at hlast
      rw [List.getLast?_concat]
      exact isWordChar_of_mem_lowerChar (List.getLast_mem hne) hlast

/-! ## A template of the kind alone -/

section

variable {vocabulary : Vocabulary} {w : Text}

/-- In a text with word edges a kind is found that is the whole text, and nothing else, exactly when
the vocabulary has a word of the letters of the text. -/
theorem findAll_kind_iff (hedges : HasWordEdges w) :
    (Template.pattern ⟨[.placeholder .kind]⟩ vocabulary).findAll w = [⟨0, [w]⟩] ↔
      ∃ word ∈ vocabulary.table.words, word.SameLetters w := by
  constructor
  · intro h
    have hfirst : (Template.pattern ⟨[.placeholder .kind]⟩ vocabulary).findAll w =
        [] ++ ⟨0, [w]⟩ :: [] := h
    obtain ⟨left, right, -, -, hcut⟩ := (isNextMatch_of_findAll hfirst).cutAt
    exact (IsCut.cons_iff.1 hcut).1.1
  · intro hword
    have hpiece : (Token.placeholder .kind).Admits vocabulary [] w ([[]].flatten ++ []) := by
      refine ⟨hword, ?_, ?_⟩
      · simpa [isWordBoundary] using hedges.1
      · simpa [isWordBoundary] using hedges.2
    -- No kind is longer, since the text ends with this one.
    have hfirst : IsFirstCut vocabulary [.placeholder .kind] ([] ++ []) [w] [] :=
      .longest id hpiece (fun more others rest hmore heq _ => hmore (List.append_eq_nil_iff.1 heq).1)
        .nil
    have hnext : IsNextMatch vocabulary [.placeholder .kind] w none ⟨0, [w]⟩ := by
      have hne : [w].flatten ≠ [] := by simpa using hedges.ne_nil
      simpa using hfirst.isNextMatch hne rfl fun _ _ _ _ => Nat.zero_le _
    have hrest : (Scan.resume w (some ⟨0, [w]⟩)).all
        (Template.pattern ⟨[.placeholder .kind]⟩ vocabulary) = [] := by
      have hstop : resumeOffset (some ⟨0, [w]⟩) = w.length := by
        simp [resumeOffset, Match.stop, Match.text]
      exact all_resume_eq_nil_of_kind hstop.le fun offset pieces _ hle => hstop ▸ hle
    have hall := hnext.all_resume_eq (Nat.zero_le _) (List.cons_ne_nil _ _)
    rw [hrest] at hall
    exact hall

/-- The template of the kind alone. -/
theorem Template.ofText_kind : ofText "%k".toList = ⟨[.placeholder .kind]⟩ := by
  decide +kernel

/-- A match of a kind makes the record with this kind. -/
theorem Template.recordOf_kind {kind : Kind} (hkind : vocabulary.find? w = some kind)
    (start : Nat) :
    recordOf ⟨[.placeholder .kind]⟩ vocabulary [] ⟨start, [w]⟩ = .ok { kind := kind } := by
  rw [recordOf, List.zip_cons_cons, foldlM_cons_of_eq_ok (fill_kind_of_find? hkind)]
  rfl

end

/-- A vocabulary has the lower-case form of each word that it is made from. -/
theorem Vocabulary.lower_mem_words_of_mem {table : WordTable} {vocabulary : Vocabulary}
    (h : ofTable table = .ok vocabulary) {w : Text} (hw : w ∈ table.words) :
    w.lower ∈ vocabulary.table.words := by
  rw [ofTable_eq_ok_iff.1 h]
  exact WordTable.mem_words_lower.2 ⟨w, hw, rfl⟩

/-- In a text that is a word as the author of the vocabulary spelled it, the template of the kind
finds this word, whole, exactly when the vocabulary has a word of the same letters. Then the text
gives one record, with the kind that the vocabulary gives to the word, and nothing is malformed. A
word without the capital I with a dot always has such a word: its own lower-case form. -/
theorem parse_own_spelling (table : WordTable) (vocabulary : Vocabulary)
    (h : Vocabulary.ofTable table = .ok vocabulary)
    (hsize : ((Template.ofText "%k".toList).pattern vocabulary).size ≤ Pattern.maxSize) :
    ∃ x, Extractor.ofTemplate "%k".toList [] vocabulary = .ok x ∧ ∀ w ∈ table.words,
      ∃ kind, vocabulary.kindOf w [] = .ok kind ∧
        (x.pattern.findAll w = [⟨0, [w]⟩] ↔
          ∃ word ∈ vocabulary.table.words, word.SameLetters w) ∧
        ((∃ word ∈ vocabulary.table.words, word.SameLetters w) →
          x.parse w = ⟨[{ kind := kind }], []⟩) ∧
        ('\u0130' ∉ w → ∃ word ∈ vocabulary.table.words, word.SameLetters w) := by
  obtain ⟨x, hx⟩ := Extractor.exists_ofTemplate_eq_ok hsize []
  refine ⟨x, hx, fun w hw => ?_⟩
  obtain ⟨htemplate, rfl, -⟩ := Extractor.eq_of_ofTemplate_eq_ok hx
  rw [Template.ofText_kind] at htemplate
  have hlower := Vocabulary.lower_mem_words_of_mem h hw
  obtain ⟨kind, hkind⟩ := WordTable.mem_words_iff.1 hlower
  have hfound := @findAll_kind_iff x.vocabulary w (x.vocabulary.hasWordEdges _ hlower).of_lower
  rw [← htemplate, ← x.pattern_eq] at hfound
  refine ⟨kind, Vocabulary.kindOf_eq_ok_iff.2 hkind, hfound, fun hword => ?_, fun hdot => ?_⟩
  · have hanchor : ∃ token ∈ (Template.ofText "%k".toList).tokens, token.isAnchor = true :=
      ⟨.placeholder .kind, by rw [Template.ofText_kind]; simp, rfl⟩
    refine Outcome.ofFindings_eq_iff.2 ?_
    rw [Extractor.findings_eq_map hx hanchor, hfound.2 hword, List.map_singleton, htemplate,
      Template.recordOf_kind hkind]
    rfl
  · exact ⟨w.lower, hlower, Text.sameLetters_lower_iff.2 hdot⟩

/-- The last sigma of a word in capitals is a final sigma in lower case, and yet the same letter. -/
theorem parse_own_spelling_final_sigma : ∃ vocabulary,
    Vocabulary.ofTable (.ofList [("ΣΑΣ".toList, .warning)]) = .ok vocabulary ∧
      ((Template.ofText "%k".toList).pattern vocabulary).size ≤ Pattern.maxSize ∧
      vocabulary.table.words = ["σας".toList] ∧
      ∃ x, Extractor.ofTemplate "%k".toList [] vocabulary = .ok x ∧
        x.parse "ΣΑΣ".toList = ⟨[{ kind := .warning }], []⟩ := by
  let vocabulary : Vocabulary := ⟨.ofList [("σας".toList, .warning)], by decide, by decide +kernel⟩
  have hvocabulary : Vocabulary.ofTable (.ofList [("ΣΑΣ".toList, .warning)]) = .ok vocabulary := by
    decide +kernel
  have hsize : ((Template.ofText "%k".toList).pattern vocabulary).size ≤ Pattern.maxSize := by
    decide +kernel
  obtain ⟨x, hx, hwords⟩ := parse_own_spelling _ vocabulary hvocabulary hsize
  obtain ⟨kind, hkind, -, hparse, hsame⟩ := hwords "ΣΑΣ".toList (by decide)
  have hwarning : vocabulary.kindOf "ΣΑΣ".toList [] = .ok .warning := by decide +kernel
  obtain rfl : kind = .warning := Except.ok.inj (hkind.symm.trans hwarning)
  exact ⟨vocabulary, hvocabulary, hsize, by decide +kernel, x, hx, hparse (hsame (by decide))⟩

/-- The capital I with a dot becomes two characters in lower case. In its own spelling a word with it
is therefore not found, though the vocabulary gives a kind to this spelling. -/
theorem parse_own_spelling_capital_i_with_dot : ∃ vocabulary,
    Vocabulary.ofTable (.ofList [("\u0130x".toList, .error)]) = .ok vocabulary ∧
      ((Template.ofText "%k".toList).pattern vocabulary).size ≤ Pattern.maxSize ∧
      vocabulary.kindOf "\u0130x".toList [] = .ok .error ∧
      ∃ x, Extractor.ofTemplate "%k".toList [] vocabulary = .ok x ∧
        x.parse "\u0130x".toList = ⟨[], []⟩ := by
  let vocabulary : Vocabulary :=
    ⟨.ofList [("i\u0307x".toList, .error)], by decide, by decide +kernel⟩
  have hsize : ((Template.ofText "%k".toList).pattern vocabulary).size ≤ Pattern.maxSize := by
    decide +kernel
  obtain ⟨x, hx⟩ := Extractor.exists_ofTemplate_eq_ok hsize []
  have hfindings : x.findings "\u0130x".toList = [] := by
    have hmatches : ((Template.ofText "%k".toList).pattern vocabulary).findAll "\u0130x".toList =
        [] := by decide +kernel
    obtain ⟨htemplate, hvocabulary, -⟩ := Extractor.eq_of_ofTemplate_eq_ok hx
    rw [Extractor.findings, x.pattern_eq, htemplate, hvocabulary, hmatches, List.filterMap_nil]
  refine ⟨vocabulary, by decide +kernel, hsize, by decide +kernel, x, hx, ?_⟩
  rw [Extractor.parse, hfindings]
  rfl

end Diagnostics
