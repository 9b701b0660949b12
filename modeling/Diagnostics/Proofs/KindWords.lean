import Diagnostics.Proofs.Findings
import Diagnostics.Proofs.Matches
import Diagnostics.Proofs.Numeral
import Diagnostics.Proofs.WordTables

/-!
# Kind words in any case

A kind word is compared without regard to case twice: the matcher compares its letters with those of
the text one by one, and the vocabulary looks up the lower-case form of what was matched. For a
vocabulary of ASCII words the two agree on all texts without three characters: the capital I with a
dot, the dotless i and the long s (`Text.lower_eq_iff_sameLetters`). An extractor looks up only
words that the matcher has found (`exists_matchesWhole_of_unknownKind`). So, where the text has none
of the three characters, no kind word is unknown (`exists_kindOf_iff_matchesWhole`).
-/

namespace Diagnostics

open Cursor (between)

/-! ## Lower-case forms in ASCII -/

namespace Text

variable {word t : Text}

/-- A text in ASCII is the lower-case form of another one when it has the lower-case letters of that
one, and that one has no capital I with a dot, whose lower-case form has a dot of its own. -/
theorem lower_eq_iff (hword : ∀ c ∈ word, c.toNat < 0x80) :
    t.lower = word ↔ t.map simpleLower = word ∧ '\u0130' ∉ t := by
  suffices h : ∀ before, lowerAfter before t = word ↔ t.map simpleLower = word ∧ '\u0130' ∉ t from
    h []
  induction t generalizing word with
  | nil => simp [lowerAfter]
  | cons c t ih =>
    intro before
    rw [lowerAfter, List.map_cons, List.mem_cons, not_or]
    by_cases hsigma : c = '\u03A3'
    · -- Both small sigmas lie outside of ASCII, and so do the lower-case forms that have one.
      subst hsigma
      refine iff_of_false ?_ ?_
      · rintro rfl
        have hfirst : ∀ isFinal : Bool,
            ¬(if isFinal then '\u03C2' else '\u03C3').toNat < 0x80 := by decide
        exact hfirst (isWordFinal before t) (hword _ List.mem_cons_self)
      · rintro ⟨rfl, -⟩
        have hfirst := hword _ List.mem_cons_self
        revert hfirst
        decide +kernel
    by_cases hdot : c = '\u0130'
    · subst hdot
      refine iff_of_false ?_ fun h => h.2.1 rfl
      rintro rfl
      have hsecond := hword '\u0307' (by simp [lowerChar])
      revert hsecond
      decide
    rw [lowerChar, if_neg hsigma, if_neg hdot, List.singleton_append]
    cases word with
    | nil => simp
    | cons d word =>
      obtain ⟨-, hword⟩ := List.forall_mem_cons.1 hword
      rw [List.cons.injEq, List.cons.injEq, ih hword, and_assoc]
      exact and_congr_right fun _ => and_congr_right fun _ =>
        (and_iff_right fun h => hdot h.symm).symm

/-- The lower-case letters of a text are a text in ASCII when its letters without regard to case
are, and it has neither a dotless i nor a long s. -/
theorem map_simpleLower_eq_iff (hword : ∀ c ∈ word, c.toNat < 0x80) :
    t.map simpleLower = word ↔ t.map caselessKey = word ∧ '\u0131' ∉ t ∧ '\u017F' ∉ t := by
  induction t generalizing word with
  | nil => simp
  | cons c t ih =>
    cases word with
    | nil => simp
    | cons d word =>
      obtain ⟨hd, hword⟩ := List.forall_mem_cons.1 hword
      simp only [List.map_cons, List.cons.injEq, caselessKey_eq_iff hd, ih hword, List.mem_cons,
        not_or, ne_comm]
      tauto

/-- A word in ASCII and lower case is the lower-case form of a text exactly when the two are the same
letters but for case and the text has none of three characters. -/
theorem lower_eq_iff_sameLetters (hword : ∀ c ∈ word, c.toNat < 0x80)
    (hlower : ∀ c ∈ word, simpleLower c = c) :
    t.lower = word ↔ word.SameLetters t ∧ '\u0130' ∉ t ∧ '\u0131' ∉ t ∧ '\u017F' ∉ t := by
  have hkeys : word.map caselessKey = word := by
    calc word.map caselessKey = word.map id := List.map_congr_left fun c hc =>
          ((caselessKey_eq_iff (hword c hc)).1 (hlower c hc)).1
      _ = word := List.map_id word
  rw [lower_eq_iff hword, map_simpleLower_eq_iff hword, SameLetters, hkeys]
  constructor
  · rintro ⟨⟨hsame, hdotless, hlong⟩, hdot⟩
    exact ⟨hsame.symm, hdot, hdotless, hlong⟩
  · rintro ⟨hsame, hdot, hdotless, hlong⟩
    exact ⟨⟨hsame.symm, hdotless, hlong⟩, hdot⟩

end Text

/-! ## Words of a vocabulary -/

namespace Vocabulary

/-- A word is known when its lower-case form is one of the words of the vocabulary. -/
theorem exists_kindOf_eq_ok_iff {vocabulary : Vocabulary} {t matched : Text} :
    (∃ kind, vocabulary.kindOf t matched = .ok kind) ↔ t.lower ∈ vocabulary.table.words := by
  simp only [kindOf_eq_ok_iff]
  exact WordTable.mem_words_iff.symm

/-- The words of the vocabulary match the whole text: tried where it begins, in any case, one of them
ends where it ends. -/
def MatchesWhole (vocabulary : Vocabulary) (t : Text) : Prop :=
  between t [] ∈ Fragment.wordStops vocabulary.alternatives (between [] t)

/-- The words match a text when it has the letters of one of them, but for case. -/
theorem matchesWhole_iff {vocabulary : Vocabulary} {t : Text} :
    vocabulary.MatchesWhole t ↔ ∃ word ∈ vocabulary.table.words, word.SameLetters t := by
  rw [MatchesWhole, Fragment.mem_wordStops_iff]
  constructor
  · rintro ⟨piece, right, ht, hend, word, hword, hsame⟩
    obtain rfl : [] = right := congrArg Cursor.rest hend
    rw [List.append_nil] at ht
    exact ⟨word, mem_alternatives.1 hword, ht ▸ hsame⟩
  · rintro ⟨word, hword, hsame⟩
    exact ⟨t, [], (List.append_nil t).symm, rfl, word, mem_alternatives.2 hword, hsame⟩

/-- In a vocabulary of ASCII words a text is known exactly when the words match it and it has none of
three characters. -/
theorem exists_kindOf_eq_ok_iff_matchesWhole {table : WordTable} {vocabulary : Vocabulary}
    (h : ofTable table = .ok vocabulary)
    (hascii : ∀ word ∈ vocabulary.table.words, ∀ c ∈ word, c.toNat < 0x80) {t matched : Text} :
    (∃ kind, vocabulary.kindOf t matched = .ok kind) ↔
      vocabulary.MatchesWhole t ∧ '\u0130' ∉ t ∧ '\u0131' ∉ t ∧ '\u017F' ∉ t := by
  have hwords : ∀ word ∈ vocabulary.table.words,
      (t.lower = word ↔ word.SameLetters t ∧ '\u0130' ∉ t ∧ '\u0131' ∉ t ∧ '\u017F' ∉ t) := by
    intro word hword
    refine Text.lower_eq_iff_sameLetters (hascii word hword) fun c hc => ?_
    rw [← lower_eq_of_ofTable h hword] at hc
    exact Text.simpleLower_of_mem_lower hc
  rw [exists_kindOf_eq_ok_iff, matchesWhole_iff]
  constructor
  · intro hmem
    obtain ⟨hsame, hfree⟩ := (hwords _ hmem).1 rfl
    exact ⟨⟨_, hmem, hsame⟩, hfree⟩
  · rintro ⟨⟨word, hword, hsame⟩, hfree⟩
    rw [(hwords word hword).2 ⟨hsame, hfree⟩]
    exact hword

end Vocabulary

/-! ## Unknown words in a text -/

/-- Only a kind is looked up, so only a kind can be unknown. -/
theorem Template.fill_eq_unknownKind {vocabulary : Vocabulary} {matched group word context : Text}
    {r : Record} {token : Token}
    (h : fill vocabulary matched r token group = .error (.unknownKind word context)) :
    token = .placeholder .kind ∧ ¬∃ kind, vocabulary.kindOf group matched = .ok kind := by
  rcases fill_eq_error h with ⟨rfl, hfind, -⟩ | ⟨-, herror⟩ | ⟨-, herror⟩
  · refine ⟨rfl, ?_⟩
    rintro ⟨kind, hkind⟩
    rw [Vocabulary.kindOf, hfind] at hkind
    cases hkind
  · cases herror
  · cases herror

/-- Where an unknown kind is found, the words of the vocabulary match a part of the text that the
vocabulary does not know. -/
theorem Extractor.exists_matchesWhole_of_unknownKind {x : Extractor} {t word context : Text}
    (h : .error (.unknownKind word context) ∈ x.findings t) :
    ∃ group matched, group <:+: t ∧ x.vocabulary.MatchesWhole group ∧
      ¬∃ kind, x.vocabulary.kindOf group matched = .ok kind := by
  obtain ⟨m, hm, hfinding⟩ := List.mem_filterMap.1 h
  rw [pattern_eq] at hm
  obtain ⟨earlier, later, hmatches⟩ := List.append_of_mem hm
  obtain ⟨left, right, ht, -, hcut⟩ := (isNextMatch_of_findAll hmatches).cutAt
  -- The record fails at one of the groups, which then belongs to a kind.
  have hrecord : x.template.recordOf x.vocabulary x.fileOverride m =
      .error (.unknownKind word context) := by
    unfold findingOf at hfinding
    split at hfinding
    · exact Option.some.inj hfinding
    · simp at hfinding
  obtain ⟨⟨token, group⟩, hmem, r, hfill⟩ := Template.exists_fill_of_recordOf_eq_error hrecord
  obtain ⟨rfl, hunknown⟩ := Template.fill_eq_unknownKind hfill
  obtain ⟨_, _, hword, -⟩ := hcut.exists_admits_of_mem_zip hmem
  refine ⟨group, m.text, ?_, Vocabulary.matchesWhole_iff.2 hword, hunknown⟩
  obtain ⟨before, after, hgroups⟩ := List.append_of_mem (List.of_mem_zip hmem).2
  exact ⟨left ++ before.flatten, after.flatten ++ right, by rw [ht, hgroups]; simp⟩

/-- The two comparisons without regard to case agree up to three characters. A vocabulary that is
made from a table, and whose words are then all in ASCII, knows a text exactly when its words match
the whole text in any case and the text has none of the capital I with a dot, the dotless i and the
long s. So in a text without these three characters no extractor with this vocabulary finds an
unknown kind, whatever its template. -/
theorem exists_kindOf_iff_matchesWhole (table : WordTable) (vocabulary : Vocabulary)
    (h : Vocabulary.ofTable table = .ok vocabulary)
    (hascii : ∀ word ∈ vocabulary.table.words, ∀ c ∈ word, c.toNat < 0x80) :
    (∀ t matched, (∃ kind, vocabulary.kindOf t matched = .ok kind) ↔
      vocabulary.MatchesWhole t ∧ '\u0130' ∉ t ∧ '\u0131' ∉ t ∧ '\u017F' ∉ t) ∧
    ∀ template fileOverride x, Extractor.ofTemplate template fileOverride vocabulary = .ok x →
      ∀ t, '\u0130' ∉ t → '\u0131' ∉ t → '\u017F' ∉ t →
        ∀ word context, .unknownKind word context ∉ (x.parse t).errors := by
  refine ⟨fun t matched => Vocabulary.exists_kindOf_eq_ok_iff_matchesWhole h hascii, ?_⟩
  intro template fileOverride x hx t hdot hdotless hlong word context herror
  obtain ⟨-, rfl, -⟩ := Extractor.eq_of_ofTemplate_eq_ok hx
  obtain ⟨group, matched, hgroup, hmatches, hunknown⟩ :=
    Extractor.exists_matchesWhole_of_unknownKind (Outcome.mem_errors_ofFindings.1 herror)
  refine hunknown ((Vocabulary.exists_kindOf_eq_ok_iff_matchesWhole h hascii).2 ⟨hmatches, ?_⟩)
  exact ⟨fun hc => hdot (hgroup.subset hc), fun hc => hdotless (hgroup.subset hc),
    fun hc => hlong (hgroup.subset hc)⟩

/-- The Kelvin sign is a capital K, in the comparison of letters as in lower case. -/
theorem exists_kindOf_iff_matchesWhole_kelvin : ∃ vocabulary,
    Vocabulary.ofTable (.ofList [("Break".toList, .warning)]) = .ok vocabulary ∧
      (∀ word ∈ vocabulary.table.words, ∀ c ∈ word, c.toNat < 0x80) ∧
      vocabulary.MatchesWhole "brea\u212A".toList ∧
      (∃ kind, vocabulary.kindOf "brea\u212A".toList [] = .ok kind) ∧
      ∃ x, Extractor.ofTemplate "%k: %m".toList [] vocabulary = .ok x ∧
        ∀ word context, .unknownKind word context ∉ (x.parse "BREA\u212A: a".toList).errors := by
  let vocabulary : Vocabulary := ⟨.ofList [("break".toList, .warning)], by decide, by decide +kernel⟩
  have hvocabulary : Vocabulary.ofTable (.ofList [("Break".toList, .warning)]) = .ok vocabulary := by
    decide +kernel
  have hascii : ∀ word ∈ vocabulary.table.words, ∀ c ∈ word, c.toNat < 0x80 := by
    have hwords : vocabulary.table.words = ["break".toList] := by decide +kernel
    rw [hwords, List.forall_mem_singleton]
    simp
  obtain ⟨hknown, hfound⟩ := exists_kindOf_iff_matchesWhole _ vocabulary hvocabulary hascii
  have hkind : ∃ kind, vocabulary.kindOf "brea\u212A".toList [] = .ok kind :=
    ⟨.warning, by decide +kernel⟩
  have hsize : ((Template.ofText "%k: %m".toList).pattern vocabulary).size ≤ Pattern.maxSize := by
    decide +kernel
  obtain ⟨x, hx⟩ := Extractor.exists_ofTemplate_eq_ok hsize []
  refine ⟨vocabulary, hvocabulary, hascii, ((hknown _ _).1 hkind).1, hkind, x, hx, ?_⟩
  exact hfound _ _ x hx _ (by decide) (by decide) (by decide)

end Diagnostics
