import Mathlib.Data.List.Forall2
import Diagnostics.Proofs.PatternText
import Diagnostics.Template.Basic

/-!
# Compiling a template

The pattern of a template is a regular expression with one capturing group for each token. So an
engine that reads regular expressions refuses no pattern and finds as many groups as there are
tokens, and a compilation that asks it (`Template.compileWith`) is no different from one that only
looks at the size.

Tokens are also read back from pattern texts, but for lines and columns, which are written alike
(`Token.SameButNumber`). Placeholders are few and are compared one by one; a literal is escaped, and
what stands at the beginning of a placeholder never stands there in an escaped text.
-/

namespace Diagnostics

/-! ## Tokens with one text -/

namespace Token

/-- The tokens are the same, or one is a line where the other is a column. -/
def SameButNumber (a b : Token) : Prop :=
  a = b ∨ a = placeholder .line ∧ b = placeholder .column ∨
    a = placeholder .column ∧ b = placeholder .line

instance (a b : Token) : Decidable (a.SameButNumber b) :=
  inferInstanceAs (Decidable (_ ∨ _ ∧ _ ∨ _ ∧ _))

/-- Only for a kind do the words matter. -/
theorem fragment_placeholder_eq {p : Placeholder} (words : List Text) (h : p ≠ .kind) :
    (placeholder p).fragment words = (placeholder p).fragment [] := by
  cases p with
  | kind => exact absurd rfl h
  | _ => rfl

/-- Behind the opening parenthesis the fragment of a placeholder has a bracket, or a backslash and no
special character. -/
theorem inside_fragment_placeholder (words : List Text) (p : Placeholder) :
    ∃ c rest, ((placeholder p).fragment words).inside = c :: rest ∧
      (c = '[' ∨ c = '\\' ∧ ∃ d rest', rest = d :: rest' ∧ d ∉ Text.specialChars) := by
  cases p with
  | file | message | wildcard => exact ⟨'[', _, rfl, .inl rfl⟩
  | line | column | whitespace | kind => exact ⟨'\\', _, rfl, .inr ⟨rfl, _, _, rfl, by decide⟩⟩

/-- No literal is written like a placeholder. -/
theorem text_fragment_literal_ne (words : List Text) (t : Text) (p : Placeholder) :
    ((literal t).fragment words).text ≠ ((placeholder p).fragment words).text := by
  intro heq
  rw [Fragment.text_eq, Fragment.text_eq] at heq
  have hinside := List.append_cancel_right (List.cons.inj heq).2
  obtain ⟨c, rest, hrest, hhead⟩ := inside_fragment_placeholder words p
  rw [hrest] at hinside
  obtain ⟨hbracket, hbackslash⟩ := Text.escaped_eq_cons hinside
  rcases hhead with hc | ⟨hc, d, rest', hd, hnot⟩
  · exact hbracket hc
  · obtain ⟨e, rest'', he, hspecial⟩ := hbackslash hc
    rw [hd] at he
    rw [(List.cons.inj he).1] at hnot
    exact hnot hspecial

/-- Placeholders are written differently, except for a line and a column. -/
theorem sameButNumber_of_text_fragment_placeholder (words : List Text) {p q : Placeholder}
    (h : ((placeholder p).fragment words).text = ((placeholder q).fragment words).text) :
    (placeholder p).SameButNumber (placeholder q) := by
  have hmem : ∀ p : Placeholder, p ∈ Placeholder.all := fun p => by cases p <;> decide
  have hother : ∀ p ∈ Placeholder.all, ∀ q ∈ Placeholder.all, p ≠ .kind → q ≠ .kind →
      ((placeholder p).fragment []).text = ((placeholder q).fragment []).text →
      (placeholder p).SameButNumber (placeholder q) := by decide +kernel
  -- Only a kind begins with a word boundary.
  have hboundary : ∀ p ∈ Placeholder.all, p ≠ .kind →
      ((placeholder p).fragment []).text.take 3 ≠ ['(', '\\', 'b'] := by decide +kernel
  have hkind : ((placeholder .kind).fragment words).text.take 3 = ['(', '\\', 'b'] := rfl
  rcases Decidable.em (p = .kind) with rfl | hp <;> rcases Decidable.em (q = .kind) with rfl | hq
  · exact .inl rfl
  · rw [fragment_placeholder_eq words hq] at h
    exact absurd (h ▸ hkind) (hboundary q (hmem q) hq)
  · rw [fragment_placeholder_eq words hp] at h
    exact absurd (h ▸ hkind) (hboundary p (hmem p) hp)
  · rw [fragment_placeholder_eq words hp, fragment_placeholder_eq words hq] at h
    exact hother p (hmem p) q (hmem q) hp hq h

/-- Two tokens are written alike under one vocabulary only if they are the same but for lines and
columns. -/
theorem text_fragment_eq_iff (words : List Text) {a b : Token} :
    (a.fragment words).text = (b.fragment words).text ↔ a.SameButNumber b := by
  constructor
  · intro h
    cases a with
    | placeholder p =>
      cases b with
      | placeholder q => exact sameButNumber_of_text_fragment_placeholder words h
      | literal t => exact absurd h.symm (text_fragment_literal_ne words t p)
    | literal s =>
      cases b with
      | placeholder q => exact absurd h (text_fragment_literal_ne words s q)
      | literal t =>
        have hinside : s.escaped = t.escaped := List.append_cancel_right (List.cons.inj h).2
        exact .inl (congrArg literal (Text.escaped_inj hinside))
  · rintro (rfl | ⟨rfl, rfl⟩ | ⟨rfl, rfl⟩) <;> rfl

end Token


/-! ## Engines and templates -/

/-- An engine for regular expressions gives the number of capturing groups of a text, or the reason
why the text is no regular expression. -/
abbrev Engine := Text → Except Text Nat

/-- The engine reads every regular expression that is no larger than a pattern may be and whose groups
are nested at most once. It may refuse those that are larger or nested deeper. -/
def Engine.ReadsExpressions (engine : Engine) : Prop :=
  ∀ n t groups, t.utf8Size ≤ Pattern.maxSize → IsExpression n t → groups? t = some groups →
    (∀ g ∈ groups, g.depth ≤ 1) → engine t = .ok n

/-- The engine that counts the capturing groups of a text with balanced parentheses. -/
def Engine.counting : Engine := fun t =>
  match groups? t with
  | some groups => .ok (groups.countP Group.isCapturing)
  | none => .error "unbalanced parenthesis".toList

/-- Counting is enough to read regular expressions. -/
theorem Engine.readsExpressions_counting : counting.ReadsExpressions := by
  intro n t _ _ h _ _
  obtain ⟨groups, hreads, rfl⟩ := h.exists_reads
  rw [counting, hreads.groups?_eq]

namespace Template

variable {t : Template}

/-- The pattern of the template, unless it is too large, the engine refuses its text, or the engine
does not find one group for each token. -/
def compileWith (engine : Engine) (t : Template) (vocabulary : Vocabulary) :
    Except TemplateError Pattern :=
  let pattern := t.pattern vocabulary
  if pattern.size ≤ Pattern.maxSize then
    match engine pattern.text with
    | .error reason => .error (.invalid t.render reason)
    | .ok groups =>
      if groups = t.tokens.length then .ok pattern
      else .error (.invalid t.render ("pattern has ".toList ++ decimal groups ++
        " groups for ".toList ++ decimal t.tokens.length ++ " tokens".toList))
  else .error (.tooLarge t.render pattern.size Pattern.maxSize)

/-- A template with tokens has a pattern with fragments. -/
theorem pattern_ne_nil (h : t.tokens ≠ []) (vocabulary : Vocabulary) :
    t.pattern vocabulary ≠ [] :=
  fun heq => h (List.map_eq_nil_iff.1 heq)

/-- Every token gives one fragment. -/
theorem length_pattern (t : Template) (vocabulary : Vocabulary) :
    (t.pattern vocabulary).length = t.tokens.length :=
  List.length_map _

/-- In a pattern that is not too large an engine finds one group for each token. -/
theorem engine_text_pattern {engine : Engine} (hengine : engine.ReadsExpressions)
    (h : t.tokens ≠ []) {vocabulary : Vocabulary}
    (hsize : (t.pattern vocabulary).size ≤ Pattern.maxSize) :
    engine (t.pattern vocabulary).text = .ok t.tokens.length := by
  have hne := pattern_ne_nil h vocabulary
  rw [← length_pattern t vocabulary]
  exact hengine _ _ _ hsize (Pattern.isExpression_text hne) (Pattern.reads_text hne).groups?_eq
    fun _ => Pattern.depth_le_one

/-- An engine that finds one group for each token, unless the pattern is too large, is content with
every pattern. -/
theorem compileWith_eq_of_engine {engine : Engine} {vocabulary : Vocabulary}
    (h : (t.pattern vocabulary).size ≤ Pattern.maxSize →
      engine (t.pattern vocabulary).text = .ok t.tokens.length) :
    t.compileWith engine vocabulary = t.compile vocabulary := by
  unfold compileWith compile
  dsimp only
  by_cases hsize : (t.pattern vocabulary).size ≤ Pattern.maxSize
  · simp only [h hsize, if_pos]
  · rw [if_neg hsize, if_neg hsize]

/-- An engine finds in a pattern what compiling relies on. -/
theorem compileWith_eq {engine : Engine} (hengine : engine.ReadsExpressions) (h : t.tokens ≠ [])
    (vocabulary : Vocabulary) : t.compileWith engine vocabulary = t.compile vocabulary :=
  compileWith_eq_of_engine (engine_text_pattern hengine h)

/-- Compiling never finds a template invalid. -/
theorem compile_ne_invalid (t : Template) (vocabulary : Vocabulary) (template reason : Text) :
    t.compile vocabulary ≠ .error (.invalid template reason) := by
  unfold compile
  dsimp only
  split <;> simp

/-- Two templates have one pattern text under a vocabulary only if their tokens are the same but for
lines and columns. -/
theorem text_pattern_eq_iff (h : t.tokens ≠ []) (vocabulary : Vocabulary) (others : List Token) :
    (Template.pattern ⟨others⟩ vocabulary).text = (t.pattern vocabulary).text ↔
      List.Forall₂ Token.SameButNumber others t.tokens := by
  rw [Pattern.text_eq_text_iff (pattern_ne_nil h vocabulary), pattern, pattern, List.map_map,
    List.map_map, ← List.forall₂_eq_eq_eq, List.forall₂_map_left_iff, List.forall₂_map_right_iff]
  simp only [Function.comp_apply, Token.text_fragment_eq_iff]

/-- Inside of the groups of its tokens a template has one group for each kind. -/
theorem filter_groups_inner (t : Template) (vocabulary : Vocabulary) :
    ((t.pattern vocabulary).groups.filter fun g => g.depth ≠ 0) =
      (t.tokens.filter fun token => token = .placeholder .kind).map fun _ =>
        ⟨1, "(?i:".toList ++ vocabulary.patternText ++ [')']⟩ := by
  obtain ⟨tokens⟩ := t
  have hopen : "(?i:".toList = ['(', '?', 'i', ':'] := by decide
  rw [Pattern.filter_groups_inner, pattern, hopen]
  induction tokens with
  | nil => rfl
  | cons token tokens ih =>
    dsimp only at ih ⊢
    rw [List.map_cons, List.flatMap_cons, ih]
    cases token with
    | placeholder p => cases p <;> rfl
    | literal s => rfl

end Template

/-- In the text of a pattern that is not empty the parentheses are balanced. The groups that no group
stands around are those of the tokens, one after the other, and make up the whole text; the only
other groups are one choice of words for each kind, which does not capture. So there are as many
capturing groups as tokens, and compiling never finds the template invalid, whatever engine reads the
regular expression. Another template has the same pattern text only if its tokens are the same but
for lines and columns. -/
theorem groups_pattern_text {t : Template} (h : t.tokens ≠ []) (vocabulary : Vocabulary) :
    (∃ groups, groups? (t.pattern vocabulary).text = some groups ∧
      (groups.filter fun g => g.depth = 0).map Group.text =
        t.tokens.map (fun token => (token.fragment vocabulary.alternatives).text) ∧
      ((groups.filter fun g => g.depth = 0).map Group.text).flatten =
        (t.pattern vocabulary).text ∧
      (groups.filter fun g => g.depth ≠ 0) =
        ((t.tokens.filter fun token => token = .placeholder .kind).map fun _ =>
          ⟨1, "(?i:".toList ++ vocabulary.patternText ++ [')']⟩) ∧
      groups.countP Group.isCapturing = t.tokens.length) ∧
    (∀ engine : Engine, engine.ReadsExpressions →
      t.compileWith engine vocabulary = t.compile vocabulary ∧
      ∀ template reason, t.compileWith engine vocabulary ≠ .error (.invalid template reason)) ∧
    ∀ others, (Template.pattern ⟨others⟩ vocabulary).text = (t.pattern vocabulary).text ↔
      List.Forall₂ Token.SameButNumber others t.tokens := by
  have hne := Template.pattern_ne_nil h vocabulary
  have houter : ((t.pattern vocabulary).groups.filter fun g => g.depth = 0).map Group.text =
      t.tokens.map fun token => (token.fragment vocabulary.alternatives).text := by
    rw [Pattern.filter_groups_outer, List.map_map, Template.pattern, List.map_map]
    rfl
  refine ⟨⟨(t.pattern vocabulary).groups, (Pattern.reads_text hne).groups?_eq, houter, ?_,
    t.filter_groups_inner vocabulary, ?_⟩, ?_, t.text_pattern_eq_iff h vocabulary⟩
  · rw [houter, Pattern.text_eq hne, Template.pattern, List.flatMap_map, List.flatMap_def]
  · rw [Pattern.countP_isCapturing_groups hne, Template.length_pattern]
  · intro engine hengine
    have heq := Template.compileWith_eq hengine h vocabulary
    exact ⟨heq, fun template reason => heq ▸ t.compile_ne_invalid vocabulary template reason⟩

/-- A literal that looks like the group of a kind behind a kind. -/
theorem groups_pattern_text_kind :
    [Token.placeholder .kind, .literal "(?i:)".toList] ≠ [] ∧
      Engine.counting.ReadsExpressions ∧
      groups? (Template.pattern ⟨[.placeholder .kind, .literal "(?i:)".toList]⟩ .standard).text =
        some [⟨1, "(?i:warning|error)".toList⟩, ⟨0, "(\\b(?i:warning|error)\\b)".toList⟩,
          ⟨0, "(\\(\\?i:\\))".toList⟩] ∧
      ∀ template reason, Template.compileWith .counting
        ⟨[.placeholder .kind, .literal "(?i:)".toList]⟩ .standard ≠
          .error (.invalid template reason) := by
  have hne : [Token.placeholder .kind, .literal "(?i:)".toList] ≠ [] := by decide
  have hcounting := Engine.readsExpressions_counting
  refine ⟨hne, hcounting, by decide +kernel, ?_⟩
  exact ((groups_pattern_text (t := ⟨_⟩) hne .standard).2.1 .counting hcounting).2

end Diagnostics
