import Mathlib.Data.List.Perm.Subperm
import Mathlib.Algebra.Order.BigOperators.Group.List
import Mathlib.Algebra.Order.Ring.Nat
import Diagnostics.Proofs.Alternatives
import Diagnostics.Proofs.Compilation
import Diagnostics.Proofs.VocabularySteps

/-!
# The size of a pattern

The size of the pattern of a template is the sum of the sizes that its tokens take, and it alone
decides whether the template compiles. The template without tokens is the one exception to the sum:
its pattern has a size, too, but one that is far below the limit.

Fewer tokens take less room. A kind takes more room under a vocabulary with further words, since the
alternation has all the words that it had, each of them once, whatever their new order is
(`Vocabulary.utf8Size_alternation_le`); all other tokens take the same. So a template that compiles
with further words compiles without them, and so does each part of it.
-/

namespace Diagnostics

/-! ## Sizes of texts -/

namespace Text

/-- Every character adds its size. -/
theorem utf8Size_cons (c : Char) (t : Text) : utf8Size (c :: t) = c.utf8Size + utf8Size t := by
  suffices hfold : ∀ n, t.foldl (fun size c => size + c.utf8Size) n = n + utf8Size t by
    rw [utf8Size, List.foldl_cons, hfold, Nat.zero_add]
  rw [utf8Size]
  induction t with
  | nil => exact fun n => rfl
  | cons d t ih =>
    intro n
    rw [List.foldl_cons, List.foldl_cons, ih (n + _), ih (0 + _), Nat.zero_add, Nat.add_assoc]

/-- The sizes of texts that stand one after the other add up. -/
theorem utf8Size_append (s t : Text) : utf8Size (s ++ t) = utf8Size s + utf8Size t := by
  induction s with
  | nil => exact (Nat.zero_add _).symm
  | cons c s ih => rw [List.cons_append, utf8Size_cons, ih, utf8Size_cons, Nat.add_assoc]

/-- The size of a text that is written part by part. -/
theorem utf8Size_flatMap {α : Type} (parts : List α) (f : α → Text) :
    utf8Size (parts.flatMap f) = (parts.map fun part => utf8Size (f part)).sum := by
  induction parts with
  | nil => rfl
  | cons part parts ih => rw [List.flatMap_cons, utf8Size_append, ih, List.map_cons, List.sum_cons]

end Text

/-! ## Sizes of alternations -/

namespace Vocabulary

variable {vocabulary extended : Vocabulary} {synonyms : WordTable}

/-- Each word of an alternation takes its own room and that of a bar, but for one of them. -/
theorem utf8Size_alternation {words : List Text} (h : words ≠ []) :
    Text.utf8Size (alternation words) + 1 =
      (words.map fun word => Text.utf8Size word.escaped + 1).sum := by
  induction words with
  | nil => exact absurd rfl h
  | cons v words ih =>
    cases words with
    | nil =>
      rw [alternation, List.map_singleton, List.intercalate_singleton, List.map_singleton,
        List.sum_singleton]
    | cons w words =>
      have hbar : ('|' : Char).utf8Size = 1 := by decide
      rw [alternation_cons_cons, Text.utf8Size_append, Text.utf8Size_cons, hbar, List.map_cons,
        List.sum_cons, ← ih (List.cons_ne_nil w words)]
      omega

/-- An alternation of distinct words is not larger than one that has all of them in any order. -/
theorem utf8Size_alternation_le {words others : List Text} (hnodup : words.Nodup)
    (hsubset : words ⊆ others) :
    Text.utf8Size (alternation words) ≤ Text.utf8Size (alternation others) := by
  cases words with
  | nil => exact Nat.zero_le _
  | cons v words =>
    have hne : others ≠ [] := List.ne_nil_of_mem (hsubset List.mem_cons_self)
    obtain ⟨reordered, hperm, hsublist⟩ := hnodup.subperm hsubset
    have hsum : ((v :: words).map fun word => Text.utf8Size word.escaped + 1).sum ≤
        (others.map fun word => Text.utf8Size word.escaped + 1).sum := by
      rw [← (hperm.map _).sum_eq]
      exact (hsublist.map _).sum_le_sum fun _ _ => Nat.zero_le _
    rw [← utf8Size_alternation (List.cons_ne_nil v words), ← utf8Size_alternation hne] at hsum
    exact Nat.le_of_succ_le_succ hsum

/-- With further words a vocabulary in lower case has an alternation that is not smaller. -/
theorem utf8Size_patternText_le_of_extend
    (hlower : ∀ word ∈ vocabulary.table.words, word.lower = word)
    (h : vocabulary.extend synonyms = .ok extended) :
    Text.utf8Size vocabulary.patternText ≤ Text.utf8Size extended.patternText :=
  utf8Size_alternation_le vocabulary.nodup_alternatives fun _ hword =>
    mem_alternatives.2 (mem_words_of_extend hlower h (mem_alternatives.1 hword))

end Vocabulary

/-! ## Sizes of tokens and templates -/

/-- The number of bytes that the token takes in a pattern. -/
def Token.patternSize (vocabulary : Vocabulary) (token : Token) : Nat :=
  Text.utf8Size (token.fragment vocabulary.alternatives).text

/-- A token takes no more room under a vocabulary in lower case than under the same one with further
words. -/
theorem Token.patternSize_le_of_extend {vocabulary extended : Vocabulary} {synonyms : WordTable}
    (hlower : ∀ word ∈ vocabulary.table.words, word.lower = word)
    (h : vocabulary.extend synonyms = .ok extended) (token : Token) :
    token.patternSize vocabulary ≤ token.patternSize extended := by
  cases token with
  | literal t => exact Nat.le_refl _
  | placeholder p =>
    rcases Decidable.em (p = .kind) with rfl | hp
    · have hsize : ∀ vocabulary : Vocabulary, (placeholder .kind).patternSize vocabulary =
          Text.utf8Size "(\\b(?i:".toList + Text.utf8Size vocabulary.patternText +
            Text.utf8Size ")\\b)".toList := by
        intro vocabulary
        rw [← Text.utf8Size_append, ← Text.utf8Size_append]
        rfl
      have hle := Vocabulary.utf8Size_patternText_le_of_extend hlower h
      rw [hsize, hsize]
      omega
    · rw [patternSize, patternSize, fragment_placeholder_eq vocabulary.alternatives hp,
        fragment_placeholder_eq extended.alternatives hp]

namespace Template

variable {t : Template} {vocabulary extended : Vocabulary}

/-- The number of bytes that the tokens take in a pattern. -/
def patternSize (vocabulary : Vocabulary) (t : Template) : Nat :=
  (t.tokens.map (Token.patternSize vocabulary)).sum

/-- The pattern of a template with tokens is as large as they are together. -/
theorem size_pattern (h : t.tokens ≠ []) (vocabulary : Vocabulary) :
    (t.pattern vocabulary).size = t.patternSize vocabulary := by
  rw [Pattern.size, Pattern.text_eq (pattern_ne_nil h vocabulary), pattern, List.flatMap_map,
    Text.utf8Size_flatMap]
  rfl

/-- The pattern is not too large when the tokens take no more room than the limit; without tokens it
is not, although it takes more room than they. -/
theorem size_pattern_le_of_patternSize_le (h : t.patternSize vocabulary ≤ Pattern.maxSize) :
    (t.pattern vocabulary).size ≤ Pattern.maxSize := by
  rcases Decidable.em (t.tokens = []) with hnil | hne
  · have hnever : Pattern.size [] ≤ Pattern.maxSize := by decide
    have hpattern : t.pattern vocabulary = [] := by
      rw [pattern, hnil]
      rfl
    rwa [hpattern]
  · rwa [size_pattern hne]

/-- A template compiles when its tokens take no more room than the limit. -/
theorem compile_eq_ok (h : t.patternSize vocabulary ≤ Pattern.maxSize) :
    t.compile vocabulary = .ok (t.pattern vocabulary) :=
  if_pos (size_pattern_le_of_patternSize_le h)

/-- What takes room has tokens. -/
theorem tokens_ne_nil_of_lt_patternSize {n : Nat} (h : n < t.patternSize vocabulary) :
    t.tokens ≠ [] := by
  intro hnil
  rw [patternSize, hnil] at h
  exact Nat.not_lt_zero n h

/-- A template with tokens that take more room than the limit does not compile. -/
theorem compile_eq_tooLarge (h : Pattern.maxSize < t.patternSize vocabulary) :
    t.compile vocabulary =
      .error (.tooLarge t.render (t.patternSize vocabulary) Pattern.maxSize) := by
  rw [compile, size_pattern (tokens_ne_nil_of_lt_patternSize h)]
  exact if_neg (Nat.not_le_of_lt h)

/-- A template fails to compile only when it has tokens and they take more room than the limit. -/
theorem compile_eq_error_iff {e : TemplateError} : t.compile vocabulary = .error e ↔
    t.tokens ≠ [] ∧ Pattern.maxSize < t.patternSize vocabulary ∧
      e = .tooLarge t.render (t.patternSize vocabulary) Pattern.maxSize := by
  constructor
  · intro herror
    have hlarge : Pattern.maxSize < t.patternSize vocabulary := by
      by_contra hsmall
      cases herror.symm.trans (compile_eq_ok (Nat.le_of_not_lt hsmall))
    have htooLarge := Except.error.inj (herror.symm.trans (compile_eq_tooLarge hlarge))
    exact ⟨tokens_ne_nil_of_lt_patternSize hlarge, hlarge, htooLarge⟩
  · rintro ⟨-, hlarge, rfl⟩
    exact compile_eq_tooLarge hlarge

/-- Only the room that the tokens take decides whether a template compiles. -/
theorem exists_compile_eq_ok_iff :
    (∃ pattern, t.compile vocabulary = .ok pattern) ↔
      t.patternSize vocabulary ≤ Pattern.maxSize := by
  constructor
  · rintro ⟨pattern, hpattern⟩
    by_contra hlarge
    cases (compile_eq_tooLarge (Nat.lt_of_not_le hlarge)).symm.trans hpattern
  · exact fun h => ⟨_, compile_eq_ok h⟩

/-- A template takes no more room under a vocabulary in lower case than under the same one with
further words. -/
theorem patternSize_le_of_extend {synonyms : WordTable}
    (hlower : ∀ word ∈ vocabulary.table.words, word.lower = word)
    (h : vocabulary.extend synonyms = .ok extended) (t : Template) :
    t.patternSize vocabulary ≤ t.patternSize extended :=
  List.sum_le_sum fun token _ => token.patternSize_le_of_extend hlower h

/-- What is left when tokens are taken out takes no more room. -/
theorem patternSize_le_of_sublist {tokens : List Token} (h : tokens.Sublist t.tokens) :
    patternSize vocabulary ⟨tokens⟩ ≤ t.patternSize vocabulary :=
  (h.map _).sum_le_sum fun _ _ => Nat.zero_le _

end Template

/-- The limit for the size of a pattern is exact: a template does not compile exactly when it has
tokens and they take more than 131072 bytes together, each as many as its own part of the pattern in
UTF-8, and then the error has the template as text and this size. Otherwise it compiles, and an
engine that reads regular expressions, the one that matches nowhere among them, finds a group for
each token, so that asking the engine makes no difference. When a template compiles under a
vocabulary with further words, any tokens that are left when others are taken out compile with them
and without them. -/
theorem Template.compile_size_limit {engine : Engine} (hengine : engine.ReadsExpressions)
    (hnever : engine Pattern.neverText = .ok 0) {table : WordTable} {vocabulary : Vocabulary}
    (hmade : Vocabulary.ofTable table = .ok vocabulary) (t : Template) :
    t.compileWith engine vocabulary = t.compile vocabulary ∧
    (∀ e, t.compile vocabulary = .error e ↔
      t.tokens ≠ [] ∧ 131072 < (t.tokens.map (Token.patternSize vocabulary)).sum ∧
        e = .tooLarge t.render (t.tokens.map (Token.patternSize vocabulary)).sum 131072) ∧
    (t.tokens = [] ∨ (t.tokens.map (Token.patternSize vocabulary)).sum ≤ 131072 →
      t.compile vocabulary = .ok (t.pattern vocabulary) ∧
        engine (t.pattern vocabulary).text = .ok t.tokens.length) ∧
    ∀ synonyms extended, vocabulary.extend synonyms = .ok extended →
      ∀ pattern, t.compile extended = .ok pattern → ∀ tokens, tokens.Sublist t.tokens →
        (∃ pattern, Template.compile ⟨tokens⟩ vocabulary = .ok pattern) ∧
          ∃ pattern, Template.compile ⟨tokens⟩ extended = .ok pattern := by
  have hgroups : (t.pattern vocabulary).size ≤ Pattern.maxSize →
      engine (t.pattern vocabulary).text = .ok t.tokens.length := by
    intro hsize
    rcases Decidable.em (t.tokens = []) with hnil | hne
    · rw [pattern, hnil]
      exact hnever
    · exact engine_text_pattern hengine hne hsize
  refine ⟨compileWith_eq_of_engine hgroups, fun e => compile_eq_error_iff, fun h => ?_,
    fun synonyms extended hextended pattern hpattern tokens hsublist => ?_⟩
  · have hsmall : t.patternSize vocabulary ≤ Pattern.maxSize := by
      rcases h with hnil | hsmall
      · rw [patternSize, hnil]
        exact Nat.zero_le _
      · exact hsmall
    exact ⟨compile_eq_ok hsmall, hgroups (size_pattern_le_of_patternSize_le hsmall)⟩
  · have hsmall := exists_compile_eq_ok_iff.1 ⟨pattern, hpattern⟩
    have hrest := (patternSize_le_of_sublist hsublist).trans hsmall
    have hlower : ∀ word ∈ vocabulary.table.words, word.lower = word := fun _ =>
      Vocabulary.lower_eq_of_ofTable hmade
    have hfewer := (patternSize_le_of_extend hlower hextended ⟨tokens⟩).trans hrest
    exact ⟨exists_compile_eq_ok_iff.2 hfewer, exists_compile_eq_ok_iff.2 hrest⟩

/-- A synonym takes six bytes more in a template, since it is escaped and one of its characters
takes two bytes; parts of the template compile with it and without it. -/
theorem Template.compile_size_limit_synonym : ∃ extended,
    Engine.counting.ReadsExpressions ∧ Engine.counting Pattern.neverText = .ok 0 ∧
    Vocabulary.ofTable Vocabulary.standard.table = .ok Vocabulary.standard ∧
    Vocabulary.standard.extend (.ofList [("É-x".toList, .warning)]) = .ok extended ∧
    (Template.ofText "%k: é%m".toList).patternSize .standard = 39 ∧
    (Template.ofText "%k: é%m".toList).patternSize extended = 45 ∧
    ∀ tokens, tokens.Sublist (Template.ofText "%k: é%m".toList).tokens →
      (∃ pattern, Template.compile ⟨tokens⟩ .standard = .ok pattern) ∧
        ∃ pattern, Template.compile ⟨tokens⟩ extended = .ok pattern := by
  let extended : Vocabulary :=
    ⟨.ofList [("warning".toList, .warning), ("error".toList, .error), ("é-x".toList, .warning)],
      by decide, by decide +kernel⟩
  have hengine := Engine.readsExpressions_counting
  have hnever : Engine.counting Pattern.neverText = .ok 0 := by decide +kernel
  have hmade : Vocabulary.ofTable Vocabulary.standard.table = .ok Vocabulary.standard := by
    decide +kernel
  have hextended : Vocabulary.standard.extend (.ofList [("É-x".toList, .warning)]) =
      .ok extended := by decide +kernel
  have hsize : (Template.ofText "%k: é%m".toList).patternSize extended = 45 := by decide +kernel
  have hcompile : (Template.ofText "%k: é%m".toList).compile extended =
      .ok (Template.pattern (Template.ofText "%k: é%m".toList) extended) :=
    compile_eq_ok (hsize ▸ by decide)
  obtain ⟨-, -, -, hparts⟩ := Template.compile_size_limit hengine hnever hmade
    (Template.ofText "%k: é%m".toList)
  exact ⟨extended, hengine, hnever, hmade, hextended, by decide +kernel, hsize,
    hparts _ extended hextended _ hcompile⟩

end Diagnostics
