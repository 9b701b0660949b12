import Mathlib.Data.List.Nodup
import Diagnostics.Extraction.Extractor
import Diagnostics.Proofs.Alternatives
import Diagnostics.Proofs.WordTables

/-!
# Words in any order

A vocabulary keeps its words in the order in which they came, but nothing that it is used for depends
on this order. `Vocabulary.SameWords` says that two vocabularies have the same words, each with the
same kind, which is to say that their entries are the same up to order
(`Vocabulary.sameWords_iff_perm`). Their alternatives are then the same list
(`Vocabulary.SameWords.alternatives_eq`), since words in the order in which they are tried are known by
which words they are, and a word that is looked up has the same kind in both
(`Vocabulary.SameWords.find?_eq`). A pattern needs no more than the alternatives, and a record no more
than the kinds; so all templates find the same records and the same errors
(`parse_words_in_any_order`).
-/

namespace Diagnostics

namespace Vocabulary

/-- The two vocabularies have the same words, each with the same kind. The order of the words may be
another one. -/
structure SameWords (vocabulary vocabulary' : Vocabulary) : Prop where
  /-- A word of one vocabulary is a word of the other one. -/
  mem_words_iff : ∀ word, word ∈ vocabulary.table.words ↔ word ∈ vocabulary'.table.words
  /-- A word has the same kind in both. -/
  find?_table_eq : ∀ word ∈ vocabulary.table.words,
    vocabulary.table.find? word = vocabulary'.table.find? word

variable {vocabulary vocabulary' : Vocabulary}

/-- Two vocabularies have the same words exactly when their entries differ in order only. -/
theorem sameWords_iff_perm : SameWords vocabulary vocabulary' ↔
    vocabulary.table.entries.Perm vocabulary'.table.entries := by
  have hnodup : ∀ table : WordTable, table.entries.Nodup := fun table => table.nodup.of_map _
  rw [List.perm_ext_iff_of_nodup (hnodup _) (hnodup _)]
  constructor
  · rintro ⟨hwords, hkinds⟩ ⟨word, kind⟩
    rw [← WordTable.find?_eq_some_iff, ← WordTable.find?_eq_some_iff]
    by_cases hword : word ∈ vocabulary.table.words
    · rw [hkinds word hword]
    · have hword' : word ∉ vocabulary'.table.words := mt (hwords word).2 hword
      rw [WordTable.find?_eq_none_iff.2 hword, WordTable.find?_eq_none_iff.2 hword']
  · intro hentries
    have hfind : ∀ word kind, vocabulary.table.find? word = some kind ↔
        vocabulary'.table.find? word = some kind := by
      intro word kind
      rw [WordTable.find?_eq_some_iff, WordTable.find?_eq_some_iff, hentries]
    refine ⟨fun word => ?_, fun word _ => Option.ext fun kind => hfind word kind⟩
    simp only [WordTable.mem_words_iff, hfind]

instance (vocabulary vocabulary' : Vocabulary) : Decidable (SameWords vocabulary vocabulary') :=
  decidable_of_iff _ sameWords_iff_perm.symm

namespace SameWords

variable (h : SameWords vocabulary vocabulary')
include h

/-- The words are tried in the same order. -/
theorem alternatives_eq : vocabulary.alternatives = vocabulary'.alternatives := by
  refine vocabulary.pairwise_alternatives.eq_of_mem_iff vocabulary'.pairwise_alternatives
    fun word => ?_
  rw [mem_alternatives, mem_alternatives, h.mem_words_iff]

/-- The words make the same pattern. -/
theorem patternText_eq : vocabulary.patternText = vocabulary'.patternText := by
  rw [patternText, h.alternatives_eq, patternText]

/-- A word in any case has the same kind in both vocabularies, or is in neither. -/
theorem find?_eq (word : Text) : vocabulary.find? word = vocabulary'.find? word := by
  rw [find?, find?]
  by_cases hword : word.lower ∈ vocabulary.table.words
  · exact h.find?_table_eq _ hword
  · have hword' : word.lower ∉ vocabulary'.table.words := mt (h.mem_words_iff _).2 hword
    rw [WordTable.find?_eq_none_iff.2 hword, WordTable.find?_eq_none_iff.2 hword']

/-- A word that was found in a text is read in the same way. -/
theorem kindOf_eq : vocabulary.kindOf = vocabulary'.kindOf := by
  funext word matched
  rw [kindOf, kindOf, h.find?_eq]

/-- A template compiles to the same pattern, or fails with the same error. -/
theorem compile_eq (t : Template) : t.compile vocabulary = t.compile vocabulary' := by
  have hpattern : t.pattern vocabulary = t.pattern vocabulary' := by
    rw [Template.pattern, h.alternatives_eq, Template.pattern]
  rw [Template.compile, hpattern, Template.compile]

/-- The groups of a match fill a record in the same way. -/
theorem fill_eq : Template.fill vocabulary = Template.fill vocabulary' := by
  funext matched r token group
  cases token with
  | literal text => rfl
  | placeholder p =>
    cases p with
    | kind => exact congrArg (Except.map _) (congrFun (congrFun h.kindOf_eq group) matched)
    | _ => rfl

/-- A match makes the same record, or has the same fault. -/
theorem recordOf_eq (t : Template) : t.recordOf vocabulary = t.recordOf vocabulary' := by
  funext fileOverride m
  rw [Template.recordOf, h.fill_eq, Template.recordOf]

end SameWords

end Vocabulary

/-- What an extractor finds in a text, if its template compiles, comes of the pattern and of the
records of its matches. -/
theorem Extractor.map_parse_ofTemplate (text fileOverride : Text) (vocabulary : Vocabulary)
    (t : Text) :
    (ofTemplate text fileOverride vocabulary).map (fun x => x.parse t) =
      ((Template.ofText text).compile vocabulary).map fun pattern =>
        .ofFindings ((pattern.findAll t).filterMap fun m =>
          if (Template.ofText text).isMessage m then
            some ((Template.ofText text).recordOf vocabulary fileOverride m)
          else none) := by
  unfold ofTemplate
  dsimp only
  split
  · rename_i pattern hcompile
    refine Eq.trans ?_ (congrArg (Except.map _) hcompile.symm)
    rfl
  · rename_i e hcompile
    exact (congrArg (Except.map _) hcompile).symm

/-- The order in which the words for kinds came makes no difference. Two vocabularies with the same
words, each with the same kind, however they were made, have the same alternatives and the same
pattern. There longer words come first, and those of one length are in the order of their code
points, so that no word comes after a beginning of its own. A word is read as the same kind with
either vocabulary, and any template with any file override finds the same records and the same errors
in every text, or does not compile for the same reason. -/
theorem parse_words_in_any_order (vocabulary vocabulary' : Vocabulary)
    (h : vocabulary.SameWords vocabulary') :
    vocabulary.alternatives = vocabulary'.alternatives ∧
    vocabulary.patternText = vocabulary'.patternText ∧
    vocabulary.alternatives.Pairwise (fun u w =>
      (w.length < u.length ∨ w.length = u.length ∧ u < w) ∧ ¬u <+: w) ∧
    (∀ word matched, vocabulary.kindOf word matched = vocabulary'.kindOf word matched) ∧
    ∀ template fileOverride t,
      (Extractor.ofTemplate template fileOverride vocabulary).map (fun x => x.parse t) =
        (Extractor.ofTemplate template fileOverride vocabulary').map (fun x => x.parse t) := by
  refine ⟨h.alternatives_eq, h.patternText_eq, ?_, fun word matched => by rw [h.kindOf_eq], ?_⟩
  · exact vocabulary.pairwise_alternatives.imp fun hbefore => ⟨hbefore, hbefore.not_prefix⟩
  · intro template fileOverride t
    rw [Extractor.map_parse_ofTemplate, Extractor.map_parse_ofTemplate, h.compile_eq, h.recordOf_eq]

/-- One vocabulary is made of all its words at once, and another one takes them in step by step, in
another order and another spelling. -/
theorem parse_words_in_any_order_two_ways : ∃ vocabulary vocabulary',
    Vocabulary.ofTable (.ofList [("err".toList, .error), ("Note".toList, .warning),
      ("error".toList, .error), ("warning".toList, .warning)]) = .ok vocabulary ∧
    (Vocabulary.ofTable (.ofList [("WARNING".toList, .warning)])).bind
        ([WordTable.ofList [("error".toList, .error), ("note".toList, .error)],
          .ofList [("ERR".toList, .error), ("note".toList, .warning)]].foldlM Vocabulary.extend) =
      .ok vocabulary' ∧
    vocabulary.table.words ≠ vocabulary'.table.words ∧
    vocabulary.SameWords vocabulary' ∧
    vocabulary.patternText = "warning|error|note|err".toList ∧
    vocabulary'.patternText = "warning|error|note|err".toList ∧
    ∀ template fileOverride t,
      (Extractor.ofTemplate template fileOverride vocabulary).map (fun x => x.parse t) =
        (Extractor.ofTemplate template fileOverride vocabulary').map (fun x => x.parse t) := by
  let vocabulary : Vocabulary :=
    ⟨.ofList [("err".toList, .error), ("note".toList, .warning), ("error".toList, .error),
      ("warning".toList, .warning)], by decide, by decide +kernel⟩
  let vocabulary' : Vocabulary :=
    ⟨.ofList [("warning".toList, .warning), ("error".toList, .error), ("note".toList, .warning),
      ("err".toList, .error)], by decide, by decide +kernel⟩
  have hsame : vocabulary.SameWords vocabulary' := by decide +kernel
  have hpattern : vocabulary.patternText = "warning|error|note|err".toList := by decide +kernel
  obtain ⟨-, hpatterns, -, -, hparse⟩ := parse_words_in_any_order vocabulary vocabulary' hsame
  exact ⟨vocabulary, vocabulary', by decide +kernel, by decide +kernel, by decide +kernel, hsame,
    hpattern, hpatterns ▸ hpattern, hparse⟩

end Diagnostics
