import Mathlib.Data.List.Find
import Mathlib.Data.List.Induction
import Mathlib.Data.List.Nodup
import Diagnostics.Vocabulary.Basic
import Diagnostics.Proofs.LetterCase

/-!
# Tables of words and their definitions

A table is known by its words, in their order, and by the kind of each (`WordTable.ext_find?`). After
some definitions it has the words in the order in which they came up first
(`WordTable.words_defineAll`), each with the kind of its last definition
(`WordTable.find?_defineAll`). In lower case it has the lower-case forms of its words, each with the
kind of the last of the words that have this form (`WordTable.words_lower`, `WordTable.find?_lower`);
a table in lower case stays as it is (`WordTable.lower_eq_self`). A vocabulary that is made from a
table has the table in lower case, and all its words then have word edges
(`Vocabulary.ofTable_eq_ok_iff`, `Vocabulary.exists_ofTable_eq_ok`).
-/

namespace Diagnostics

/-! ## First occurrences -/

section

variable {α β : Type}

/-- The last member that fits is sought in the second part first. -/
theorem findRev?_append {p : α → Bool} {as bs : List α} :
    (as ++ bs).findRev? p = (bs.findRev? p).or (as.findRev? p) := by
  simp only [List.findRev?_eq_find?_reverse, List.reverse_append, List.find?_append]

/-- There is no last member that fits exactly when none fits. -/
theorem findRev?_eq_none_iff {p : α → Bool} {as : List α} :
    as.findRev? p = none ↔ ∀ a ∈ as, ¬p a = true := by
  simp only [List.findRev?_eq_find?_reverse, List.find?_eq_none, List.mem_reverse]

/-- Only which members fit makes a difference to the last one. -/
theorem findRev?_congr {p q : α → Bool} {as : List α} (h : ∀ a ∈ as, p a = q a) :
    as.findRev? p = as.findRev? q := by
  simp only [List.findRev?_eq_find?_reverse]
  exact List.find?_congr fun a ha => h a (List.mem_reverse.1 ha)

/-- The last member that fits among changed members is the last one that fits when changed. -/
theorem findRev?_map {p : β → Bool} {f : α → β} {as : List α} :
    (as.map f).findRev? p = (as.findRev? (p ∘ f)).map f := by
  simp only [List.findRev?_eq_find?_reverse, ← List.map_reverse, List.find?_map]

/-- The last member that fits is a member that fits. -/
theorem mem_of_findRev?_eq_some {p : α → Bool} {as : List α} {a : α}
    (h : as.findRev? p = some a) : a ∈ as ∧ p a = true := by
  rw [List.findRev?_eq_find?_reverse] at h
  exact ⟨List.mem_reverse.1 (List.mem_of_find?_eq_some h), List.find?_some h⟩

variable [BEq α] [LawfulBEq α] [BEq β] [LawfulBEq β]

/-- A further member counts if it has not come before. -/
theorem eraseDups_concat (as : List α) (a : α) :
    (as ++ [a]).eraseDups = if a ∈ as then as.eraseDups else as.eraseDups ++ [a] := by
  rw [List.eraseDups_append]
  by_cases h : a ∈ as
  · simp [List.removeAll, h]
  · simp [List.removeAll, h, List.eraseDups_cons]

/-- A list without repetitions stays as it is. -/
theorem eraseDups_of_nodup {as : List α} (h : as.Nodup) : as.eraseDups = as := by
  induction as using List.reverseRecOn with
  | nil => rfl
  | append_singleton as a ih =>
    have hnot : a ∉ as := fun hmem => (List.nodup_append.1 h).2.2 a hmem a List.mem_cons_self rfl
    rw [eraseDups_concat, if_neg hnot, ih (List.nodup_append.1 h).1]

/-- Repetitions that are left out before the members are changed are left out afterwards too. -/
theorem eraseDups_append_map_eraseDups (bs : List β) (as : List α) (f : α → β) :
    (bs ++ as.eraseDups.map f).eraseDups = (bs ++ as.map f).eraseDups := by
  induction as using List.reverseRecOn with
  | nil => rfl
  | append_singleton as a ih =>
    rw [eraseDups_concat, List.map_append, ← List.append_assoc, List.map_singleton,
      eraseDups_concat (bs ++ as.map f)]
    split
    · rename_i hmem
      rw [ih, if_pos (List.mem_append_right bs (List.mem_map_of_mem hmem))]
    · have hiff : f a ∈ bs ++ as.eraseDups.map f ↔ f a ∈ bs ++ as.map f := by
        simp only [List.mem_append, List.mem_map, List.mem_eraseDups]
      rw [List.map_append, ← List.append_assoc, List.map_singleton, eraseDups_concat, ih]
      simp only [hiff]

end

/-! ## Words and kinds -/

namespace WordTable

variable {table table' : WordTable} {word : Text} {kind : Kind} {definitions : List (Text × Kind)}

/-- A word has the kind that an entry of the table gives to it. -/
theorem find?_eq_some_iff : table.find? word = some kind ↔ (word, kind) ∈ table.entries := by
  rw [find?, List.lookup_eq_some_iff]
  constructor
  · rintro ⟨before, after, hentries, -⟩
    rw [hentries]
    exact List.mem_append_right before List.mem_cons_self
  · intro hmem
    obtain ⟨before, after, hentries⟩ := List.append_of_mem hmem
    refine ⟨before, after, hentries, fun entry hentry => ?_⟩
    have hnodup := table.nodup
    rw [hentries, List.map_append, List.map_cons] at hnodup
    have hne := (List.nodup_append.1 hnodup).2.2 entry.1 (List.mem_map_of_mem hentry) word
      List.mem_cons_self
    simpa using hne.symm

/-- The words of the table are those that have a kind. -/
theorem mem_words_iff : word ∈ table.words ↔ ∃ kind, table.find? word = some kind := by
  simp only [words, find?_eq_some_iff, List.mem_map, Prod.exists, exists_and_right, exists_eq_right]

/-- The words that have no kind are those that are not in the table. -/
theorem find?_eq_none_iff : table.find? word = none ↔ word ∉ table.words := by
  rw [mem_words_iff, ← Option.isSome_iff_exists, Option.not_isSome_iff_eq_none]

/-- Two tables with the same words in the same order are the same if each word has the same kind. -/
theorem ext_find? (hwords : table.words = table'.words)
    (hfind : ∀ word ∈ table.words, table.find? word = table'.find? word) : table = table' := by
  have hlength : table.entries.length = table'.entries.length := by
    simpa [words] using congrArg List.length hwords
  have hentries : table.entries = table'.entries := by
    refine List.ext_getElem hlength fun i hi hi' => ?_
    have hword : (table.entries[i]).1 = (table'.entries[i]).1 := by
      have hget := congrArg (·[i]?) hwords
      simpa [words, hi, hi'] using hget
    have hkind : table.find? (table.entries[i]).1 = some (table.entries[i]).2 :=
      find?_eq_some_iff.2 (List.getElem_mem hi)
    have hkind' : table'.find? (table'.entries[i]).1 = some (table'.entries[i]).2 :=
      find?_eq_some_iff.2 (List.getElem_mem hi')
    rw [hfind _ (List.mem_map_of_mem (List.getElem_mem hi)), hword, hkind'] at hkind
    exact Prod.ext hword (Option.some.inj hkind).symm
  cases table
  cases table'
  obtain rfl := hentries
  rfl

/-- Of the entries whose words fit, the last one gives its kind to the last word that fits. -/
theorem map_findRev?_entries (table : WordTable) (p : Text → Bool) :
    (table.entries.findRev? fun entry => p entry.1).map Prod.snd =
      (table.words.findRev? p).bind table.find? := by
  rw [words, findRev?_map]
  change _ = ((table.entries.findRev? fun entry => p entry.1).map Prod.fst).bind table.find?
  cases hlast : table.entries.findRev? fun entry => p entry.1 with
  | none => rfl
  | some entry => exact (find?_eq_some_iff.2 (mem_of_findRev?_eq_some hlast).1).symm

/-- The last entry of a word is its only one. -/
theorem map_findRev?_entries_eq (table : WordTable) (word : Text) :
    (table.entries.findRev? fun entry => entry.1 = word).map Prod.snd = table.find? word := by
  rw [table.map_findRev?_entries (· = word)]
  cases hlast : table.words.findRev? (· = word) with
  | none =>
    refine (find?_eq_none_iff.2 fun hmem => ?_).symm
    simpa using findRev?_eq_none_iff.1 hlast word hmem
  | some word' =>
    obtain rfl : word' = word := by simpa using (mem_of_findRev?_eq_some hlast).2
    rfl

/-! ## Definitions -/

/-- A definition adds its word, unless the table has it already. -/
theorem words_define : (table.define word kind).words =
    if word ∈ table.words then table.words else table.words ++ [word] :=
  map_fst_defineIn word kind table.entries

/-- A definition gives a kind to its word and leaves the other words alone. -/
theorem find?_define {other : Text} : (table.define word kind).find? other =
    if other = word then some kind else table.find? other := by
  suffices h : ∀ entries : List (Text × Kind), (defineIn word kind entries).lookup other =
      if other = word then some kind else entries.lookup other from h table.entries
  have hcons : ∀ (entry : Text × Kind) (entries : List (Text × Kind)),
      (entry :: entries).lookup other =
        if other = entry.1 then some entry.2 else entries.lookup other := by
    rintro ⟨word', kind'⟩ entries
    by_cases hother : other = word'
    · simp [hother]
    · rw [List.lookup_cons, beq_false_of_ne hother, if_neg hother]
  intro entries
  induction entries with
  | nil => exact hcons (word, kind) []
  | cons entry entries ih =>
    rw [defineIn]
    split
    · rename_i hsame
      rw [hcons, hcons, ← hsame]
      by_cases hother : other = entry.1 <;> simp [hother]
    · rename_i hne
      rw [hcons, hcons, ih]
      by_cases hother : other = entry.1
      · simp [hother, hne]
      · simp [hother]

/-- A word that the table does not have comes behind its entries. -/
theorem entries_define (h : word ∉ table.words) :
    (table.define word kind).entries = table.entries ++ [(word, kind)] := by
  suffices hdefine : ∀ entries : List (Text × Kind), word ∉ entries.map Prod.fst →
      defineIn word kind entries = entries ++ [(word, kind)] from hdefine table.entries h
  intro entries hnot
  induction entries with
  | nil => rfl
  | cons entry entries ih =>
    rw [List.map_cons, List.mem_cons, not_or] at hnot
    rw [defineIn, if_neg (Ne.symm hnot.1), ih hnot.2, List.cons_append]

/-- After some definitions a table has its own words and those that are defined, each where it came
up first. -/
theorem words_defineAll (table : WordTable) (definitions : List (Text × Kind)) :
    (table.defineAll definitions).words =
      (table.words ++ definitions.map Prod.fst).eraseDups := by
  induction definitions using List.reverseRecOn with
  | nil =>
    rw [List.map_nil, List.append_nil]
    exact (eraseDups_of_nodup table.nodup).symm
  | append_singleton definitions d ih =>
    rw [List.map_append, ← List.append_assoc, List.map_singleton, eraseDups_concat, ← ih]
    rw [defineAll, List.foldl_append]
    exact words_define.trans (if_congr (by rw [← defineAll, ih, List.mem_eraseDups]) rfl rfl)

/-- After some definitions a word has the kind of its last definition, or its own kind. -/
theorem find?_defineAll (table : WordTable) (definitions : List (Text × Kind)) (word : Text) :
    (table.defineAll definitions).find? word =
      ((definitions.findRev? fun d => d.1 = word).map Prod.snd).or (table.find? word) := by
  induction definitions generalizing table with
  | nil => rfl
  | cons d definitions ih =>
    have hrest := ih (table.define d.1 d.2)
    rw [find?_define] at hrest
    refine hrest.trans ?_
    rw [List.findRev?]
    cases definitions.findRev? fun d => d.1 = word with
    | some d' => rfl
    | none => by_cases hd : word = d.1 <;> simp [hd, eq_comm]

/-- Further definitions come after the others. -/
theorem ofList_append (definitions others : List (Text × Kind)) :
    ofList (definitions ++ others) = (ofList definitions).defineAll others :=
  List.foldl_append

/-- The words that are defined, each where it came up first. -/
theorem words_ofList (definitions : List (Text × Kind)) :
    (ofList definitions).words = (definitions.map Prod.fst).eraseDups :=
  words_defineAll ∅ definitions

/-- A word has the kind of its last definition. -/
theorem find?_ofList (definitions : List (Text × Kind)) (word : Text) :
    (ofList definitions).find? word =
      (definitions.findRev? fun d => d.1 = word).map Prod.snd := by
  rw [ofList, find?_defineAll]
  exact Option.or_none

/-- The entries of a table define it. -/
theorem ofList_entries (table : WordTable) : ofList table.entries = table := by
  refine ext_find? ?_ fun word _ => ?_
  · rw [words_ofList]
    exact eraseDups_of_nodup table.nodup
  · rw [find?_ofList, map_findRev?_entries_eq]

/-- It makes no difference whether definitions are taken in one by one, or first made into a table
whose entries are then taken in. -/
theorem defineAll_entries_ofList (table : WordTable) (definitions : List (Text × Kind)) :
    table.defineAll (ofList definitions).entries = table.defineAll definitions := by
  refine ext_find? ?_ fun word _ => ?_
  · have hwords : (ofList definitions).entries.map Prod.fst =
        (definitions.map Prod.fst).eraseDups.map id := by
      rw [List.map_id]
      exact words_ofList definitions
    rw [words_defineAll, words_defineAll, hwords, eraseDups_append_map_eraseDups, List.map_id]
  · rw [find?_defineAll, find?_defineAll, map_findRev?_entries_eq, find?_ofList]

/-! ## Lower case -/

/-- The lower-case forms of the words, each where it came up first. -/
theorem words_lower (table : WordTable) :
    table.lower.words = (table.words.map Text.lower).eraseDups := by
  rw [lower, words_ofList, List.map_map, words, List.map_map]
  rfl

/-- The table in lower case has the lower-case forms of the words. -/
theorem mem_words_lower : word ∈ table.lower.words ↔ ∃ w ∈ table.words, w.lower = word := by
  rw [words_lower, List.mem_eraseDups, List.mem_map]

/-- A lower-case form has the kind of the last of the words that have this form. -/
theorem find?_lower (table : WordTable) (word : Text) :
    table.lower.find? word = (table.words.findRev? fun w => w.lower = word).bind table.find? := by
  rw [← map_findRev?_entries, lower, find?_ofList, findRev?_map, Option.map_map]
  rfl

/-- A table in lower case stays as it is. -/
theorem lower_eq_self (h : ∀ word ∈ table.words, word.lower = word) : table.lower = table := by
  have hentries : table.entries.map (fun entry => (entry.1.lower, entry.2)) =
      table.entries.map id :=
    List.map_congr_left fun entry hentry => Prod.ext (h _ (List.mem_map_of_mem hentry)) rfl
  rw [lower, hentries, List.map_id, ofList_entries]

/-- To define one more word of a table in lower case is to define its lower-case form. -/
theorem lower_define (h : ∀ word ∈ table.words, word.lower = word) :
    (table.define word kind).lower = table.define word.lower kind := by
  by_cases hword : word ∈ table.words
  · rw [h word hword]
    refine lower_eq_self fun w hw => h w ?_
    rwa [words_define, if_pos hword] at hw
  · rw [lower, entries_define hword, List.map_append, ofList_append, ← lower, lower_eq_self h]
    rfl

end WordTable

/-! ## Vocabularies -/

/-- A word with word edges is not empty. -/
theorem HasWordEdges.ne_nil {word : Text} (h : HasWordEdges word) : word ≠ [] := by
  rintro rfl
  exact Bool.noConfusion h.1

namespace Vocabulary

variable {vocabulary vocabulary' : Vocabulary} {table : WordTable} {word : Text}

/-- Two vocabularies with the same table are the same. -/
theorem ext_table (h : vocabulary.table = vocabulary'.table) : vocabulary = vocabulary' := by
  cases vocabulary
  cases vocabulary'
  obtain rfl := h
  rfl

/-- The vocabulary that is made from a table is the one that has this table in lower case. -/
theorem ofTable_eq_ok_iff : ofTable table = .ok vocabulary ↔ vocabulary.table = table.lower := by
  unfold ofTable
  dsimp only
  constructor
  · intro h
    split at h
    · cases h
    · split at h
      · cases h
      · obtain rfl := Except.ok.inj h
        rfl
  · intro h
    have hnil : ¬(table.lower.words = [] ∨ [] ∈ table.lower.words) := by
      rw [← h]
      rintro (hempty | hmem)
      · exact vocabulary.words_ne_nil hempty
      · exact (vocabulary.hasWordEdges _ hmem).ne_nil rfl
    rw [dif_neg hnil]
    split
    · rename_i loose hloose
      have hmem := List.mem_of_find?_eq_some hloose
      have hnot := List.find?_some hloose
      rw [← h] at hmem
      simp [vocabulary.hasWordEdges loose hmem] at hnot
    · exact congrArg _ (ext_table h.symm)

/-- A table that has a word makes a vocabulary if the lower-case forms of all its words have word
edges. -/
theorem exists_ofTable_eq_ok (hne : table.words ≠ [])
    (hedges : ∀ word ∈ table.words, HasWordEdges word.lower) :
    ∃ vocabulary, ofTable table = .ok vocabulary := by
  have hmem : ∀ word ∈ table.lower.words, HasWordEdges word := by
    intro word hword
    obtain ⟨w, hw, rfl⟩ := WordTable.mem_words_lower.1 hword
    exact hedges w hw
  obtain ⟨w, hw⟩ := List.exists_mem_of_ne_nil _ hne
  have hne' : table.lower.words ≠ [] :=
    List.ne_nil_of_mem (WordTable.mem_words_lower.2 ⟨w, hw, rfl⟩)
  exact ⟨⟨table.lower, hne', hmem⟩, ofTable_eq_ok_iff.2 rfl⟩

/-- The words of a vocabulary that is made from a table are in lower case. -/
theorem lower_eq_of_ofTable (h : ofTable table = .ok vocabulary)
    (hword : word ∈ vocabulary.table.words) : word.lower = word := by
  rw [ofTable_eq_ok_iff.1 h] at hword
  obtain ⟨w, -, rfl⟩ := WordTable.mem_words_lower.1 hword
  exact Text.lower_lower w

/-- The words of the standard vocabulary are in lower case. -/
theorem lower_eq_of_mem_words_standard (hword : word ∈ standard.table.words) :
    word.lower = word := by
  have hstandard : ofTable standard.table = .ok standard := by decide +kernel
  exact lower_eq_of_ofTable hstandard hword

/-- A vocabulary with further words has the table with all of them in lower case. -/
theorem extend_ofList_eq_ok_iff {definitions : List (Text × Kind)} :
    vocabulary.extend (.ofList definitions) = .ok vocabulary' ↔
      vocabulary'.table = (vocabulary.table.defineAll definitions).lower := by
  rw [extend, ofTable_eq_ok_iff, WordTable.defineAll_entries_ofList]

end Vocabulary

end Diagnostics
