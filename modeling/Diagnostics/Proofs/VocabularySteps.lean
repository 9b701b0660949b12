import Diagnostics.Proofs.Findings
import Diagnostics.Proofs.WordTables

/-!
# Vocabularies that are made step by step

A vocabulary is made from a table of words, and then takes in further tables one after the other.
Each step puts all words into lower case and checks them again. A step fails exactly when there is
no word, or when the lower-case form of one of the words does not have word edges
(`Vocabulary.exists_ofTable_eq_error_iff`). Since what is in lower case stays as it is, a step that
succeeds keeps the words that the vocabulary has, and the kind of each of them that is not defined
again in some case (`Vocabulary.mem_words_of_extend`, `Vocabulary.find?_of_extend`); a step that
takes in nothing changes nothing (`Vocabulary.extend_empty`). `Vocabulary.steps_invariant` says what
holds after any number of steps.
-/

namespace Diagnostics.Vocabulary

variable {vocabulary extended : Vocabulary} {table synonyms : WordTable} {word : Text}

/-! ## One step -/

/-- A table makes no vocabulary exactly when it has no word, or one whose lower-case form is empty
or does not begin and end with a word character. -/
theorem exists_ofTable_eq_error_iff : (∃ e, ofTable table = .error e) ↔
    table.words = [] ∨ ∃ key ∈ table.words, key.lower = [] ∨ ¬HasWordEdges key.lower := by
  constructor
  · rintro ⟨e, herror⟩
    by_contra hnot
    rw [not_or] at hnot
    have hedges : ∀ key ∈ table.words, HasWordEdges key.lower := by
      intro key hkey
      by_contra hloose
      exact hnot.2 ⟨key, hkey, Or.inr hloose⟩
    obtain ⟨made, hmade⟩ := exists_ofTable_eq_ok hnot.1 hedges
    cases herror.symm.trans hmade
  · intro hbad
    cases hmade : ofTable table with
    | error e => exact ⟨e, rfl⟩
    | ok made =>
      have hwords := ofTable_eq_ok_iff.1 hmade
      exfalso
      rcases hbad with hempty | ⟨key, hkey, hkey'⟩
      · refine made.words_ne_nil ?_
        rw [hwords, WordTable.words_lower, hempty]
        rfl
      · have hlowered := WordTable.mem_words_lower.2 ⟨key, hkey, rfl⟩
        have hedges := made.hasWordEdges key.lower (hwords ▸ hlowered)
        exact hkey'.elim hedges.ne_nil fun hloose => hloose hedges

/-- The words that are put into lower case when synonyms are taken in are those of the vocabulary
and those of the synonyms. -/
theorem mem_words_defineAll_entries : word ∈ (table.defineAll synonyms.entries).words ↔
    word ∈ table.words ∨ word ∈ synonyms.words := by
  rw [WordTable.words_defineAll, List.mem_eraseDups, List.mem_append]
  rfl

/-- A vocabulary with further words has the lower-case forms of its words and of the further ones.
-/
theorem mem_words_extend (h : vocabulary.extend synonyms = .ok extended) :
    word ∈ extended.table.words ↔
      ∃ w, (w ∈ vocabulary.table.words ∨ w ∈ synonyms.words) ∧ w.lower = word := by
  rw [ofTable_eq_ok_iff.1 h, WordTable.mem_words_lower]
  simp only [mem_words_defineAll_entries]

section

variable (hlower : ∀ word ∈ vocabulary.table.words, word.lower = word)
include hlower

/-- A vocabulary in lower case has its words also when further ones are taken in. -/
theorem mem_words_of_extend (h : vocabulary.extend synonyms = .ok extended)
    (hword : word ∈ vocabulary.table.words) : word ∈ extended.table.words :=
  (mem_words_extend h).2 ⟨word, Or.inl hword, hlower word hword⟩

/-- A word of a vocabulary in lower case keeps its kind, unless one of the further words is the same
in lower case. -/
theorem find?_of_extend (h : vocabulary.extend synonyms = .ok extended)
    (hword : word ∈ vocabulary.table.words) (hnew : ∀ key ∈ synonyms.words, key.lower ≠ word) :
    extended.table.find? word = vocabulary.table.find? word := by
  have hsynonym : word ∉ synonyms.words := fun hmem => hnew word hmem (hlower word hword)
  -- No other word has this one as its lower-case form, so it is the last that has it.
  have hlast : (vocabulary.table.defineAll synonyms.entries).words.findRev?
      (fun w => w.lower = word) = some word := by
    cases hlast : (vocabulary.table.defineAll synonyms.entries).words.findRev?
        fun w => w.lower = word with
    | none =>
      have hnone := findRev?_eq_none_iff.1 hlast word (mem_words_defineAll_entries.2 (Or.inl hword))
      exact absurd (decide_eq_true (hlower word hword)) hnone
    | some w =>
      obtain ⟨hmem, hw⟩ := mem_of_findRev?_eq_some hlast
      have hw : w.lower = word := of_decide_eq_true hw
      rcases mem_words_defineAll_entries.1 hmem with hmem | hmem
      · rw [← hw, hlower w hmem]
      · exact absurd hw (hnew w hmem)
  have hdefined : (synonyms.entries.findRev? fun d => d.1 = word) = none :=
    findRev?_eq_none_iff.2 fun d hd heq =>
      hsynonym (of_decide_eq_true heq ▸ List.mem_map_of_mem hd)
  rw [ofTable_eq_ok_iff.1 h, WordTable.find?_lower, hlast, Option.bind_some,
    WordTable.find?_defineAll, hdefined]
  rfl

/-- To take in nothing changes nothing. -/
theorem extend_empty : vocabulary.extend ∅ = .ok vocabulary :=
  ofTable_eq_ok_iff.2 (WordTable.lower_eq_self hlower).symm

end

/-! ## Any number of steps -/

/-- After any number of steps the words are in lower case, as they are after the first one. -/
theorem lower_eq_of_steps {steps : List WordTable}
    (h : (ofTable table).bind (steps.foldlM extend) = .ok vocabulary) :
    ∀ word ∈ vocabulary.table.words, word.lower = word := by
  obtain ⟨first, hfirst, hsteps⟩ := exists_of_bind_eq_ok h
  clear h
  have hlower : ∀ word ∈ first.table.words, word.lower = word := fun _ => lower_eq_of_ofTable hfirst
  clear hfirst
  induction steps generalizing first with
  | nil =>
    obtain rfl := Except.ok.inj hsteps
    exact hlower
  | cons synonyms steps ih =>
    obtain ⟨next, hnext, hrest⟩ := exists_of_bind_eq_ok (List.foldlM_cons.symm.trans hsteps)
    exact ih next hrest fun _ => lower_eq_of_ofTable hnext

/-- What holds of every vocabulary that is made from a table and then takes in tables of synonyms,
if all these steps succeed. It has a word, no word twice, and each of its words is in lower case and
begins and ends with a word character. A further step fails exactly when there is no word at all, or
the lower-case form of some word, old or new, is empty or does not begin and end with a word
character; and so it is with the first step. A further step that succeeds keeps all words, each with
its kind unless a new word is the same in lower case, and taking in nothing gives the same
vocabulary back, with its words, kinds and order. -/
theorem steps_invariant (table : WordTable) (steps : List WordTable) (vocabulary : Vocabulary)
    (h : (ofTable table).bind (steps.foldlM extend) = .ok vocabulary) :
    (vocabulary.table.words ≠ [] ∧ vocabulary.table.words.Nodup ∧
      ∀ word ∈ vocabulary.table.words, word.lower = word ∧ HasWordEdges word) ∧
    (∀ table : WordTable, (∃ e, ofTable table = .error e) ↔
      table.words = [] ∨ ∃ key ∈ table.words, key.lower = [] ∨ ¬HasWordEdges key.lower) ∧
    (∀ synonyms : WordTable, (∃ e, vocabulary.extend synonyms = .error e) ↔
      vocabulary.table.words ++ synonyms.words = [] ∨
        ∃ key ∈ vocabulary.table.words ++ synonyms.words,
          key.lower = [] ∨ ¬HasWordEdges key.lower) ∧
    (∀ synonyms extended, vocabulary.extend synonyms = .ok extended →
      ∀ word ∈ vocabulary.table.words, word ∈ extended.table.words ∧
        ((∀ key ∈ synonyms.words, key.lower ≠ word) →
          extended.table.find? word = vocabulary.table.find? word)) ∧
    vocabulary.extend ∅ = .ok vocabulary := by
  have hlower := lower_eq_of_steps h
  refine ⟨⟨vocabulary.words_ne_nil, vocabulary.table.nodup, fun word hword => ?_⟩,
    fun _ => exists_ofTable_eq_error_iff, fun synonyms => ?_, fun synonyms extended hextended => ?_,
    extend_empty hlower⟩
  · exact ⟨hlower word hword, vocabulary.hasWordEdges word hword⟩
  · rw [extend, exists_ofTable_eq_error_iff]
    have hnil : (vocabulary.table.defineAll synonyms.entries).words = [] ↔
        vocabulary.table.words ++ synonyms.words = [] := by
      simp only [List.eq_nil_iff_forall_not_mem, mem_words_defineAll_entries, List.mem_append]
    simp only [hnil, mem_words_defineAll_entries, List.mem_append]
  · intro word hword
    exact ⟨mem_words_of_extend hlower hextended hword,
      find?_of_extend hlower hextended hword⟩

/-- A word in capitals with a final sigma, a word that grows in lower case, and a word that is
defined again in capitals: the words of the last step are in lower case, and a further word without
an edge is refused. -/
theorem steps_invariant_longer_word : ∃ vocabulary,
    (ofTable (.ofList [("ΣΑΣ".toList, .warning), ("\u0130x".toList, .error)])).bind
        ([WordTable.ofList [("note".toList, .error)],
          .ofList [("NOTE".toList, .warning), ("\u0130X".toList, .warning)]].foldlM extend) =
      .ok vocabulary ∧
    vocabulary.table.entries = [("σας".toList, .warning), ("i\u0307x".toList, .warning),
      ("note".toList, .warning)] ∧
    (∀ word ∈ vocabulary.table.words, word.lower = word ∧ HasWordEdges word) ∧
    (∃ e, vocabulary.extend (.ofList [("fatal:".toList, .error)]) = .error e) ∧
    vocabulary.extend ∅ = .ok vocabulary := by
  let vocabulary : Vocabulary :=
    ⟨.ofList [("σας".toList, .warning), ("i\u0307x".toList, .warning), ("note".toList, .warning)],
      by decide, by decide +kernel⟩
  have hsteps : (ofTable (.ofList [("ΣΑΣ".toList, .warning), ("\u0130x".toList, .error)])).bind
      ([WordTable.ofList [("note".toList, .error)],
        .ofList [("NOTE".toList, .warning), ("\u0130X".toList, .warning)]].foldlM extend) =
      .ok vocabulary := by decide +kernel
  obtain ⟨⟨-, -, hwords⟩, -, hfails, -, hempty⟩ := steps_invariant _ _ vocabulary hsteps
  have hloose : ¬HasWordEdges (Text.lower "fatal:".toList) := by decide +kernel
  refine ⟨vocabulary, hsteps, by decide, hwords, (hfails _).2 (Or.inr ?_), hempty⟩
  exact ⟨"fatal:".toList, List.mem_append_right _ (by decide), Or.inr hloose⟩

end Diagnostics.Vocabulary
