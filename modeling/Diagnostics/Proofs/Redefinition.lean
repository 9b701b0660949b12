import Diagnostics.Proofs.CommandRuns

/-!
# Words that are defined more than once

A kind word may be defined several times, in one spelling or in several. To take the definitions in
one at a time gives each word the kind of its last definition in any case (`lastKind?`). To take them
in at once does so only among definitions of one spelling: they are made into a table first, where a
spelling keeps the place in which it came up, and the table is then put into lower case, where of
several spellings the one in the last place counts (`newestSpelling?`). Both ways have the words of
the standard vocabulary for the oldest definitions (`Vocabulary.exists_extend_eq_ok`,
`Vocabulary.exists_foldlM_extend_eq_ok`), and they come to the same vocabulary exactly when the last
definition of a word is always one of its newest spelling, or gives the same kind
(`selectVocabulary_redefined`).
-/

namespace Diagnostics

/-! ## The definition that counts -/

/-- The kind of the last definition of the word in this spelling. -/
def lastKindSpelled? (definitions : List (Text × Kind)) (spelling : Text) : Option Kind :=
  (definitions.findRev? fun d => d.1 = spelling).map Prod.snd

/-- The kind of the last definition of the word in any case. -/
def lastKind? (definitions : List (Text × Kind)) (word : Text) : Option Kind :=
  (definitions.findRev? fun d => d.1.lower = word.lower).map Prod.snd

/-- Of the spellings of the word, the one that came up last. When a spelling comes up again it keeps
its place. -/
def newestSpelling? (definitions : List (Text × Kind)) (word : Text) : Option Text :=
  (definitions.map Prod.fst).eraseDups.findRev? fun spelling => spelling.lower = word.lower

/-- The kind of the last definition of the word in its newest spelling. -/
def newestKind? (definitions : List (Text × Kind)) (word : Text) : Option Kind :=
  (newestSpelling? definitions word).bind (lastKindSpelled? definitions)

section

variable {definitions : List (Text × Kind)} {word : Text}

/-- Definitions that are put into lower case give a word the kind of its last definition. -/
theorem find?_ofList_map_lower (definitions : List (Text × Kind)) (word : Text) :
    (WordTable.ofList (definitions.map fun d => (d.1.lower, d.2))).find? word.lower =
      lastKind? definitions word := by
  rw [WordTable.find?_ofList, findRev?_map, Option.map_map]
  rfl

/-- A table of definitions that is put into lower case gives a word the kind of its last definition
in the newest spelling. -/
theorem find?_lower_ofList (definitions : List (Text × Kind)) (word : Text) :
    (WordTable.ofList definitions).lower.find? word.lower = newestKind? definitions word := by
  rw [WordTable.find?_lower, WordTable.words_ofList]
  exact congrArg _ (funext (WordTable.find?_ofList definitions))

/-- Both have the same words in the same order. -/
theorem words_ofList_map_lower (definitions : List (Text × Kind)) :
    (WordTable.ofList (definitions.map fun d => (d.1.lower, d.2))).words =
      (WordTable.ofList definitions).lower.words := by
  have herase := eraseDups_append_map_eraseDups [] (definitions.map Prod.fst) Text.lower
  rw [WordTable.words_lower, WordTable.words_ofList, WordTable.words_ofList, List.map_map]
  rw [List.nil_append, List.nil_append, List.map_map] at herase
  exact herase.symm

/-- A word that is spelled in one way has one spelling that counts. -/
theorem newestKind?_eq_lastKind? (h : ∀ d ∈ definitions, ∀ d' ∈ definitions,
      d.1.lower = d'.1.lower → d.1 = d'.1) :
    newestKind? definitions word = lastKind? definitions word := by
  unfold newestKind?
  cases hnewest : newestSpelling? definitions word with
  | none =>
    have hlast : definitions.findRev? (fun d => d.1.lower = word.lower) = none := by
      refine findRev?_eq_none_iff.2 fun d hd => ?_
      exact findRev?_eq_none_iff.1 hnewest d.1 (List.mem_eraseDups.2 (List.mem_map_of_mem hd))
    rw [lastKind?, hlast]
    rfl
  | some spelling =>
    obtain ⟨hmem, hspelling⟩ := mem_of_findRev?_eq_some hnewest
    obtain ⟨d, hd, rfl⟩ := List.mem_map.1 (List.mem_eraseDups.1 hmem)
    have hword : d.1.lower = word.lower := of_decide_eq_true hspelling
    -- The two conditions on a definition are the same for all that there are.
    have hsame : ∀ d' ∈ definitions, decide (d'.1 = d.1) = decide (d'.1.lower = word.lower) := by
      intro d' hd'
      refine decide_eq_decide.2 ⟨fun heq => heq ▸ hword, fun hlower => ?_⟩
      exact h d' hd' d hd (hlower.trans hword.symm)
    rw [Option.bind_some, lastKindSpelled?, lastKind?, findRev?_congr hsame]

end

/-! ## Vocabularies with further words -/

namespace Vocabulary

variable {vocabulary : Vocabulary} {definitions : List (Text × Kind)}

/-- Words whose lower-case forms have word edges can be taken in at once. -/
theorem exists_extend_eq_ok (hlower : ∀ word ∈ vocabulary.table.words, word.lower = word)
    (hedges : ∀ d ∈ definitions, HasWordEdges d.1.lower) :
    ∃ extended, vocabulary.extend (.ofList definitions) = .ok extended ∧
      extended.table = (WordTable.ofList (vocabulary.table.entries ++ definitions)).lower := by
  have hwords := vocabulary.table.words_defineAll definitions
  have hne : (vocabulary.table.defineAll definitions).words ≠ [] := by
    obtain ⟨word, hword⟩ := List.exists_mem_of_ne_nil _ vocabulary.words_ne_nil
    refine List.ne_nil_of_mem (a := word) ?_
    rw [hwords, List.mem_eraseDups]
    exact List.mem_append_left _ hword
  obtain ⟨extended, hextended⟩ := exists_ofTable_eq_ok hne fun word hword => by
    rw [hwords, List.mem_eraseDups, List.mem_append] at hword
    rcases hword with hword | hword
    · rw [hlower word hword]
      exact vocabulary.hasWordEdges word hword
    · obtain ⟨d, hd, rfl⟩ := List.mem_map.1 hword
      exact hedges d hd
  have htable := ofTable_eq_ok_iff.1 hextended
  refine ⟨extended, extend_ofList_eq_ok_iff.2 htable, ?_⟩
  rw [htable, WordTable.ofList_append, WordTable.ofList_entries]

/-- They can be taken in one at a time, too. -/
theorem exists_foldlM_extend_eq_ok (hlower : ∀ word ∈ vocabulary.table.words, word.lower = word)
    (hedges : ∀ d ∈ definitions, HasWordEdges d.1.lower) :
    ∃ extended,
      definitions.foldlM (fun v d => v.extend (.ofList [d])) vocabulary = .ok extended ∧
      extended.table = WordTable.ofList
        ((vocabulary.table.entries ++ definitions).map fun d => (d.1.lower, d.2)) := by
  rw [List.map_append, WordTable.ofList_append]
  change ∃ extended, _ ∧ _ = vocabulary.table.lower.defineAll _
  rw [WordTable.lower_eq_self hlower]
  induction definitions generalizing vocabulary with
  | nil => exact ⟨vocabulary, rfl, rfl⟩
  | cons d definitions ih =>
    obtain ⟨hd, hedges⟩ := List.forall_mem_cons.1 hedges
    obtain ⟨next, hnext, -⟩ := exists_extend_eq_ok hlower (List.forall_mem_singleton.2 hd)
    have htable : next.table = vocabulary.table.define d.1.lower d.2 :=
      (extend_ofList_eq_ok_iff.1 hnext).trans (WordTable.lower_define hlower)
    have hlower' : ∀ word ∈ next.table.words, word.lower = word := fun word hword =>
      lower_eq_of_ofTable hnext hword
    obtain ⟨extended, hextended, htable'⟩ := ih hlower' hedges
    refine ⟨extended, ?_, ?_⟩
    · rw [List.foldlM_cons, hnext]
      exact hextended
    · rw [htable', htable]
      rfl

/-- A definition whose word is taken in alone has a word with word edges. -/
theorem hasWordEdges_of_extend_eq_ok {extended : Vocabulary} {d : Text × Kind}
    (h : vocabulary.extend (.ofList [d]) = .ok extended) : HasWordEdges d.1.lower := by
  refine extended.hasWordEdges _ ?_
  rw [extend_ofList_eq_ok_iff.1 h, WordTable.mem_words_lower]
  refine ⟨d.1, ?_, rfl⟩
  rw [WordTable.words_defineAll, List.mem_eraseDups]
  exact List.mem_append_right _ List.mem_cons_self

section

variable {together oneByOne : Vocabulary}

/-- Where the definitions are put into lower case as a table, the last one in the newest spelling
counts. -/
theorem find?_eq_newestKind? (h : together.table = (WordTable.ofList definitions).lower)
    (word : Text) : together.find? word = newestKind? definitions word := by
  rw [find?, h, find?_lower_ofList]

/-- Where they are put into lower case one by one, the last one in any case counts. -/
theorem find?_eq_lastKind?
    (h : oneByOne.table = WordTable.ofList (definitions.map fun d => (d.1.lower, d.2)))
    (word : Text) : oneByOne.find? word = lastKind? definitions word := by
  rw [find?, h, find?_ofList_map_lower]

/-- The two are the same vocabulary exactly when it makes no difference to any word which of the
definitions counts. -/
theorem eq_iff_newestKind?_eq_lastKind?
    (h : together.table = (WordTable.ofList definitions).lower)
    (h' : oneByOne.table = WordTable.ofList (definitions.map fun d => (d.1.lower, d.2))) :
    together = oneByOne ↔ ∀ word, newestKind? definitions word = lastKind? definitions word := by
  constructor
  · rintro rfl word
    rw [← find?_eq_newestKind? h, find?_eq_lastKind? h']
  · intro hsame
    have hwords : together.table.words = oneByOne.table.words := by
      rw [h, h', words_ofList_map_lower]
    refine Vocabulary.ext_table (WordTable.ext_find? hwords fun word hword => ?_)
    have hlower : word.lower = word := by
      rw [h] at hword
      obtain ⟨w, -, rfl⟩ := WordTable.mem_words_lower.1 hword
      exact Text.lower_lower w
    have hfind : together.find? word = oneByOne.find? word := by
      rw [find?_eq_newestKind? h, find?_eq_lastKind? h', hsame]
    rwa [find?, find?, hlower] at hfind

end

/-- A definition that can be read, of a word with word edges, is one that can be taken in alone. -/
theorem exists_extend_standard_eq_ok {definition : Text} {pair : Text × Kind}
    (hread : readSynonym definition = .ok pair) (hedges : HasWordEdges pair.1.lower) :
    ∃ pair extended, readSynonym definition = .ok pair ∧
      standard.extend (.ofList [pair]) = .ok extended := by
  obtain ⟨extended, hextended, -⟩ := @exists_extend_eq_ok standard [pair]
    (fun _ => lower_eq_of_mem_words_standard) (List.forall_mem_singleton.2 hedges)
  exact ⟨pair, extended, hread, hextended⟩

end Vocabulary

/-- Kind words may be defined again. Of any list of definitions that can be read, and whose words can
be taken in, the command takes in all words at once. It comes to the same words, in the same order,
as if the definitions were taken in one at a time. Taken in one at a time, each word has the kind of
its last definition in any case, the words of the standard vocabulary being defined first; taken in
at once, it has the kind of the last definition in its newest spelling. So the two agree exactly when
these kinds are always the same, as they are if each word is spelled in one way. -/
theorem selectVocabulary_redefined (o : CommandLine.Options)
    (h : ∀ definition ∈ o.kinds, ∃ pair extended, readSynonym definition = .ok pair ∧
      Vocabulary.standard.extend (.ofList [pair]) = .ok extended) :
    ∃ pairs together oneByOne, o.kinds.mapM readSynonym = .ok pairs ∧
      CommandLine.selectVocabulary o = .ok together ∧
      pairs.foldlM (fun v pair => v.extend (.ofList [pair])) Vocabulary.standard = .ok oneByOne ∧
      together.table.words = oneByOne.table.words ∧
      (∀ word, oneByOne.find? word =
        lastKind? (Vocabulary.standard.table.entries ++ pairs) word) ∧
      (∀ word, together.find? word =
        newestKind? (Vocabulary.standard.table.entries ++ pairs) word) ∧
      (together = oneByOne ↔ ∀ word,
        newestKind? (Vocabulary.standard.table.entries ++ pairs) word =
          lastKind? (Vocabulary.standard.table.entries ++ pairs) word) ∧
      ((∀ d ∈ Vocabulary.standard.table.entries ++ pairs,
          ∀ d' ∈ Vocabulary.standard.table.entries ++ pairs, d.1.lower = d'.1.lower → d.1 = d'.1) →
        together = oneByOne) := by
  obtain ⟨pairs, hpairs⟩ := exists_mapM_eq_ok fun definition hdefinition =>
    (h definition hdefinition).imp fun _ ⟨_, hok, _⟩ => hok
  have hedges : ∀ pair ∈ pairs, HasWordEdges pair.1.lower := by
    intro pair hpair
    obtain ⟨definition, hdefinition, hok⟩ := exists_of_mem_of_mapM_eq_ok hpairs hpair
    obtain ⟨pair', extended, hok', hextended⟩ := h definition hdefinition
    obtain rfl := Except.ok.inj (hok.symm.trans hok')
    exact Vocabulary.hasWordEdges_of_extend_eq_ok hextended
  have hlower : ∀ word ∈ Vocabulary.standard.table.words, word.lower = word := fun word =>
    Vocabulary.lower_eq_of_mem_words_standard
  obtain ⟨together, htogether, htable⟩ := Vocabulary.exists_extend_eq_ok hlower hedges
  obtain ⟨oneByOne, honeByOne, htable'⟩ := Vocabulary.exists_foldlM_extend_eq_ok hlower hedges
  have hiff := Vocabulary.eq_iff_newestKind?_eq_lastKind? htable htable'
  refine ⟨pairs, together, oneByOne, hpairs, ?_, honeByOne, ?_, ?_, ?_, hiff, ?_⟩
  · exact CommandLine.selectVocabulary_eq_ok_iff.2 ⟨pairs, mapM_eq_ok_iff.1 hpairs, htogether⟩
  · rw [htable, htable', words_ofList_map_lower]
  · exact Vocabulary.find?_eq_lastKind? htable'
  · exact Vocabulary.find?_eq_newestKind? htable
  · exact fun hspelled => hiff.2 fun word => newestKind?_eq_lastKind? hspelled

/-- A further word, and a word of the standard vocabulary, that are defined again in one spelling
have the kinds of their last definitions in both ways. -/
theorem selectVocabulary_one_spelling :
    (∀ definition ∈ ["note=warning".toList, "error=warning".toList, "note=error".toList],
        ∃ pair extended, readSynonym definition = .ok pair ∧
          Vocabulary.standard.extend (.ofList [pair]) = .ok extended) ∧
      ∃ together, CommandLine.selectVocabulary
          { kinds := ["note=warning".toList, "error=warning".toList, "note=error".toList] } =
            .ok together ∧
        [("note".toList, .warning), ("error".toList, .warning), ("note".toList, .error)].foldlM
          (fun v pair => v.extend (.ofList [pair])) Vocabulary.standard = .ok together ∧
        together.find? "Note".toList = some .error ∧
        together.find? "ERROR".toList = some .warning := by
  have hdefinitions : ∀ definition ∈
      ["note=warning".toList, "error=warning".toList, "note=error".toList],
      ∃ pair extended, readSynonym definition = .ok pair ∧
        Vocabulary.standard.extend (.ofList [pair]) = .ok extended := by
    have hread : ∀ definition ∈
        ["note=warning".toList, "error=warning".toList, "note=error".toList],
        ∃ pair ∈ [("note".toList, Kind.warning), ("error".toList, .warning),
          ("note".toList, .error)], readSynonym definition = .ok pair ∧
            HasWordEdges (Text.lower pair.1) := by decide +kernel
    intro definition hdefinition
    obtain ⟨pair, -, hok, hedges⟩ := hread definition hdefinition
    exact Vocabulary.exists_extend_standard_eq_ok hok hedges
  have hpairs : ["note=warning".toList, "error=warning".toList, "note=error".toList].mapM
      readSynonym = .ok [("note".toList, .warning), ("error".toList, .warning),
        ("note".toList, .error)] := by decide +kernel
  obtain ⟨pairs, together, oneByOne, hread, htogether, honeByOne, -, hlast, -, -, hspelled⟩ :=
    selectVocabulary_redefined
      { kinds := ["note=warning".toList, "error=warning".toList, "note=error".toList] } hdefinitions
  obtain rfl := Except.ok.inj (hread.symm.trans hpairs)
  obtain rfl := hspelled (by decide +kernel)
  refine ⟨hdefinitions, together, htogether, honeByOne, ?_, ?_⟩
  · rw [hlast]
    decide +kernel
  · rw [hlast]
    decide +kernel

/-- If a word is defined in capitals first, and then in a spelling that came up before, then the
definition in capitals counts, and not the last one. -/
theorem selectVocabulary_two_spellings :
    (∀ definition ∈ ["ERROR=error".toList, "error=warning".toList],
        ∃ pair extended, readSynonym definition = .ok pair ∧
          Vocabulary.standard.extend (.ofList [pair]) = .ok extended) ∧
      ∃ pairs together oneByOne,
        ["ERROR=error".toList, "error=warning".toList].mapM readSynonym = .ok pairs ∧
        CommandLine.selectVocabulary { kinds := ["ERROR=error".toList, "error=warning".toList] } =
          .ok together ∧
        pairs.foldlM (fun v pair => v.extend (.ofList [pair])) Vocabulary.standard = .ok oneByOne ∧
        together.find? "error".toList = some .error ∧
        oneByOne.find? "error".toList = some .warning := by
  have hcapitals : readSynonym "ERROR=error".toList = .ok ("ERROR".toList, .error) := by
    decide +kernel
  have hsmall : readSynonym "error=warning".toList = .ok ("error".toList, .warning) := by
    decide +kernel
  have hpairs : ["ERROR=error".toList, "error=warning".toList].mapM readSynonym =
      .ok [("ERROR".toList, .error), ("error".toList, .warning)] := by decide +kernel
  have hlower : ∀ word ∈ Vocabulary.standard.table.words, word.lower = word := fun word =>
    Vocabulary.lower_eq_of_mem_words_standard
  have hedges : ∀ pair ∈ [("ERROR".toList, Kind.error), ("error".toList, .warning)],
      HasWordEdges (Text.lower pair.1) := by decide +kernel
  obtain ⟨together, htogether, htable⟩ := Vocabulary.exists_extend_eq_ok hlower hedges
  obtain ⟨oneByOne, honeByOne, htable'⟩ := Vocabulary.exists_foldlM_extend_eq_ok hlower hedges
  refine ⟨?_, _, together, oneByOne, hpairs, ?_, honeByOne, ?_, ?_⟩
  · rw [List.forall_mem_cons, List.forall_mem_singleton]
    exact ⟨Vocabulary.exists_extend_standard_eq_ok hcapitals (by decide +kernel),
      Vocabulary.exists_extend_standard_eq_ok hsmall (by decide +kernel)⟩
  · exact CommandLine.selectVocabulary_eq_ok_iff.2 ⟨_, mapM_eq_ok_iff.1 hpairs, htogether⟩
  · rw [Vocabulary.find?_eq_newestKind? htable]
    decide +kernel
  · rw [Vocabulary.find?_eq_lastKind? htable']
    decide +kernel

end Diagnostics
