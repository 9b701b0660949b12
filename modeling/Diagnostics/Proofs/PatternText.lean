import Diagnostics.Proofs.Expressions
import Diagnostics.Pattern.Basic

/-!
# Pattern texts are regular expressions

The text of a pattern is a regular expression in which every fragment is one capturing group. What
stands between the parentheses of a fragment (`Fragment.inside`) is a regular expression without
capturing groups, and is read in step: an escaped text since no parenthesis in it is without a
backslash, and an alternation because its words are escaped. So the groups of a pattern text are
those of its fragments, one after the other (`Pattern.reads_text`).

Since the groups of a text are settled, a pattern that is not empty has the text of another one only
if their fragments have the same texts (`Pattern.text_eq_text_iff`).
-/

namespace Diagnostics

/-! ## Escaped texts -/

namespace Text

/-- An escaped text is escaped character by character. -/
theorem escaped_cons (c : Char) (t : Text) :
    escaped (c :: t) = (if c ∈ specialChars then ['\\', c] else [c]) ++ escaped t :=
  List.flatMap_cons

/-- An escaped character stands for itself. -/
theorem isSingle_escaped (c : Char) : IsSingle (if c ∈ specialChars then ['\\', c] else [c]) := by
  have hspecial : specialChars.all (fun d => d.isAlphanum = false) = true := by decide
  have hmeta : metacharacters ⊆ specialChars := by decide
  split
  · rename_i hc
    exact .escaped (of_decide_eq_true (List.all_eq_true.1 hspecial c hc))
  · rename_i hc
    exact .char fun hmem => hc (hmeta hmem)

/-- An escaped text is a regular expression. -/
theorem isExpression_escaped (t : Text) : IsExpression 0 t.escaped := by
  induction t with
  | nil => exact .nil
  | cons c t ih =>
    rw [escaped_cons]
    exact (IsExpression.single (isSingle_escaped c)).append ih

/-- An escaped text is read in step. -/
theorem reads_escaped (t : Text) : Reads t.escaped [] := by
  induction t with
  | nil => exact .nil
  | cons c t ih =>
    rw [escaped_cons]
    exact (isSingle_escaped c).reads.append ih

/-- An escaped text begins with no bracket, and behind a backslash only with a special character. -/
theorem escaped_eq_cons {t rest : Text} {c : Char} (h : t.escaped = c :: rest) :
    c ≠ '[' ∧ (c = '\\' → ∃ d rest', rest = d :: rest' ∧ d ∈ specialChars) := by
  cases t with
  | nil => cases h
  | cons d t =>
    rw [escaped_cons] at h
    split at h
    · rename_i hd
      obtain ⟨rfl, rfl⟩ := List.cons.inj h
      exact ⟨by decide, fun _ => ⟨d, escaped t, rfl, hd⟩⟩
    · rename_i hd
      obtain ⟨rfl, -⟩ := List.cons.inj h
      have hbracket : '[' ∈ specialChars := by decide
      have hbackslash : '\\' ∈ specialChars := by decide
      exact ⟨fun heq => hd (heq ▸ hbracket), fun heq => absurd (heq ▸ hbackslash) hd⟩

/-- Different texts are escaped differently. -/
theorem escaped_inj {s t : Text} (h : s.escaped = t.escaped) : s = t := by
  have hbackslash : '\\' ∈ specialChars := by decide
  induction s generalizing t with
  | nil =>
    cases t with
    | nil => rfl
    | cons d t =>
      rw [escaped_cons] at h
      split at h <;> cases h
  | cons c s ih =>
    cases t with
    | nil =>
      rw [escaped_cons] at h
      split at h <;> cases h
    | cons d t =>
      rw [escaped_cons, escaped_cons] at h
      rcases Decidable.em (c ∈ specialChars) with hc | hc <;>
        rcases Decidable.em (d ∈ specialChars) with hd | hd
      · rw [if_pos hc, if_pos hd] at h
        obtain ⟨-, htail⟩ := List.cons.inj h
        obtain ⟨rfl, hrest⟩ := List.cons.inj htail
        rw [ih hrest]
      · -- Only a special character is written with a backslash.
        rw [if_pos hc, if_neg hd] at h
        obtain ⟨rfl, -⟩ := List.cons.inj h
        exact absurd hbackslash hd
      · rw [if_neg hc, if_pos hd] at h
        obtain ⟨rfl, -⟩ := List.cons.inj h
        exact absurd hbackslash hc
      · rw [if_neg hc, if_neg hd] at h
        obtain ⟨rfl, hrest⟩ := List.cons.inj h
        rw [ih hrest]

end Text

/-- An alternation of several words is the first one or one of the others. -/
theorem Vocabulary.alternation_cons_cons (v w : Text) (words : List Text) :
    alternation (v :: w :: words) = v.escaped ++ '|' :: alternation (w :: words) := by
  rw [alternation, List.map_cons, List.map_cons, List.intercalate_cons_cons, List.append_assoc]
  rfl

/-- An alternation of words is a regular expression. -/
theorem Vocabulary.isExpression_alternation (words : List Text) :
    IsExpression 0 (alternation words) := by
  induction words with
  | nil => exact .nil
  | cons v words ih =>
    cases words with
    | nil =>
      rw [alternation, List.map_singleton, List.intercalate_singleton]
      exact v.isExpression_escaped
    | cons w words =>
      rw [alternation_cons_cons]
      exact v.isExpression_escaped.choice ih

/-- An alternation of words is read in step. -/
theorem Vocabulary.reads_alternation (words : List Text) : Reads (alternation words) [] := by
  induction words with
  | nil => exact .nil
  | cons v words ih =>
    cases words with
    | nil =>
      rw [alternation, List.map_singleton, List.intercalate_singleton]
      exact v.reads_escaped
    | cons w words =>
      have hbar : Reads ['|'] [] := Reads.plain (by decide)
      rw [alternation_cons_cons]
      exact v.reads_escaped.append (hbar.append ih)

/-! ## Fragments -/

/-- A class of characters is a regular expression for one character. -/
theorem CharClass.isSingle_text (chars : CharClass) : IsSingle chars.text := by
  have hlineFeed : IsSetMember ['\\', 'n'] := .lineFeed
  have hnul : IsSetMember ['\\', 'x', '0', '0'] := .codePoint (by decide) (by decide)
  cases chars with
  | fileName =>
    have hmembers : ∀ t ∈ [['\\', 'x', '0', '0'], ['\\', 'n']], IsSetMember t :=
      List.forall_mem_cons.2 ⟨hnul, List.forall_mem_singleton.2 hlineFeed⟩
    exact IsSingle.complement (by decide) hmembers
  | digit => exact .digit
  | inLine =>
    have hmembers : ∀ t ∈ [['\\', 'n']], IsSetMember t := List.forall_mem_singleton.2 hlineFeed
    exact IsSingle.complement (by decide) hmembers
  | blank => exact .blank

namespace Fragment

/-- The quantifier of a run of characters. -/
def quantifier (mayBeEmpty lazy : Bool) : Text :=
  [if mayBeEmpty then '*' else '+'] ++ if lazy then ['?'] else []

/-- The choice of one of the words in any case. -/
def caseless (choices : List Text) : Text :=
  '(' :: (['?', 'i', ':'] ++ Vocabulary.alternation choices) ++ [')']

/-- The text of a fragment between its parentheses. -/
def inside : Fragment → Text
  | run chars mayBeEmpty lazy => chars.text ++ quantifier mayBeEmpty lazy
  | word choices => ['\\', 'b'] ++ caseless choices ++ ['\\', 'b']
  | literal text => text.escaped

/-- The groups of a fragment inside of its own group. -/
def nested : Fragment → List Group
  | word choices => [⟨0, caseless choices⟩]
  | _ => []

/-- The groups of a fragment, its own one last. -/
def groups (f : Fragment) : List Group :=
  f.nested.map (Group.within 1) ++ [⟨0, f.text⟩]

/-- A fragment stands between parentheses. -/
theorem text_eq (f : Fragment) : f.text = '(' :: f.inside ++ [')'] := by
  cases f with
  | run chars mayBeEmpty lazy =>
    have htext : (run chars mayBeEmpty lazy).text = '(' :: chars.text ++
        [if mayBeEmpty then '*' else '+'] ++ (if lazy then ['?'] else []) ++ [')'] := rfl
    rw [htext, inside, quantifier]
    simp
  | word choices =>
    have hopen : "(\\b(?i:".toList = ['(', '\\', 'b', '(', '?', 'i', ':'] := by decide
    have hclose : ")\\b)".toList = [')', '\\', 'b', ')'] := by decide
    have htext : (word choices).text =
        "(\\b(?i:".toList ++ Vocabulary.alternation choices ++ ")\\b)".toList := rfl
    rw [htext, hopen, hclose, inside, caseless]
    simp
  | literal t => rfl

/-- The quantifier of a run is one of the quantifiers. -/
theorem quantifier_mem (mayBeEmpty lazy : Bool) : quantifier mayBeEmpty lazy ∈ quantifiers := by
  cases mayBeEmpty <;> cases lazy <;> decide

/-- Between its parentheses a fragment is a regular expression without capturing groups. -/
theorem isExpression_inside (f : Fragment) : IsExpression 0 f.inside := by
  cases f with
  | run chars mayBeEmpty lazy =>
    exact .repeated chars.isSingle_text (quantifier_mem mayBeEmpty lazy)
  | word choices =>
    have hchoice := (Vocabulary.isExpression_alternation choices).caseless
    exact (IsExpression.wordBoundary.append hchoice).append .wordBoundary
  | literal t => exact t.isExpression_escaped

/-- Between its parentheses a fragment is read in step. -/
theorem reads_inside (f : Fragment) : Reads f.inside f.nested := by
  cases f with
  | run chars mayBeEmpty lazy =>
    exact chars.isSingle_text.reads.append
      (reads_of_mem_quantifiers (quantifier_mem mayBeEmpty lazy))
  | word choices =>
    have hflag : Reads ['?', 'i', ':'] [] := Reads.plain (by decide)
    have hchoice := (hflag.append (Vocabulary.reads_alternation choices)).group
    exact ((Reads.escape 'b').append hchoice).append (Reads.escape 'b')
  | literal t => exact t.reads_escaped

/-- A fragment is a regular expression of one capturing group. -/
theorem isExpression_text (f : Fragment) : IsExpression 1 f.text := by
  rw [text_eq]
  exact f.isExpression_inside.capture

/-- A fragment is read in step. -/
theorem reads_text (f : Fragment) : Reads f.text f.groups := by
  rw [groups, text_eq]
  exact f.reads_inside.group

/-- The only group of a fragment that no group stands around is its own. -/
theorem filter_groups_outer (f : Fragment) :
    f.groups.filter (fun g => g.depth = 0) = [⟨0, f.text⟩] := by
  cases f <;> rfl

/-- The other groups of a fragment stand inside of its own. -/
theorem filter_groups_inner (f : Fragment) :
    f.groups.filter (fun g => g.depth ≠ 0) = f.nested.map (Group.within 1) := by
  cases f <;> rfl

end Fragment

/-! ## Patterns -/

namespace Pattern

/-- A pattern that is not empty is written fragment by fragment. -/
theorem text_eq {pattern : Pattern} (h : pattern ≠ []) :
    pattern.text = pattern.flatMap Fragment.text := by
  cases pattern with
  | nil => exact absurd rfl h
  | cons f pattern => rfl

/-- The groups of a pattern, fragment by fragment. -/
def groups (pattern : Pattern) : List Group :=
  pattern.flatMap Fragment.groups

/-- A pattern is a regular expression with a capturing group for each fragment. -/
theorem isExpression_text {pattern : Pattern} (h : pattern ≠ []) :
    IsExpression pattern.length pattern.text := by
  rw [text_eq h]
  clear h
  induction pattern with
  | nil => exact .nil
  | cons f pattern ih =>
    rw [List.flatMap_cons, List.length_cons, Nat.add_comm]
    exact f.isExpression_text.append ih

/-- A pattern is read in step. -/
theorem reads_text {pattern : Pattern} (h : pattern ≠ []) : Reads pattern.text pattern.groups := by
  rw [text_eq h]
  clear h
  induction pattern with
  | nil => exact .nil
  | cons f pattern ih =>
    rw [groups, List.flatMap_cons, List.flatMap_cons]
    exact f.reads_text.append ih

/-- The groups of a pattern that no group stands around are the fragments. -/
theorem filter_groups_outer (pattern : Pattern) :
    pattern.groups.filter (fun g => g.depth = 0) = pattern.map fun f => ⟨0, f.text⟩ := by
  rw [groups, List.filter_flatMap, List.map_eq_flatMap]
  simp only [Fragment.filter_groups_outer]

/-- The other groups of a pattern are those inside of its fragments. -/
theorem filter_groups_inner (pattern : Pattern) :
    pattern.groups.filter (fun g => g.depth ≠ 0) =
      pattern.flatMap fun f => f.nested.map (Group.within 1) := by
  rw [groups, List.filter_flatMap]
  simp only [Fragment.filter_groups_inner]

/-- The groups of a pattern that capture are as many as its fragments. -/
theorem countP_isCapturing_groups {pattern : Pattern} (h : pattern ≠ []) :
    pattern.groups.countP Group.isCapturing = pattern.length := by
  obtain ⟨groups, hreads, hcount⟩ := (isExpression_text h).exists_reads
  have hgroups := (reads_text h).groups?_eq
  rw [hreads.groups?_eq] at hgroups
  rw [← Option.some.inj hgroups, hcount]

/-- The groups of a pattern are nested at most once. -/
theorem depth_le_one {pattern : Pattern} {g : Group} (h : g ∈ pattern.groups) : g.depth ≤ 1 := by
  obtain ⟨f, -, hf⟩ := List.mem_flatMap.1 h
  rcases List.mem_append.1 hf with hinner | hown
  · obtain ⟨inner, hmem, rfl⟩ := List.mem_map.1 hinner
    cases f with
    | word choices =>
      rw [List.mem_singleton.1 hmem]
      exact Nat.le_refl 1
    | run | literal => cases hmem
  · rw [List.mem_singleton.1 hown]
    exact Nat.zero_le 1

/-- The text of a pattern settles the texts of its fragments. -/
theorem text_eq_text_iff {pattern : Pattern} (h : pattern ≠ []) (others : Pattern) :
    others.text = pattern.text ↔ others.map Fragment.text = pattern.map Fragment.text := by
  constructor
  · intro htext
    have hgroups := (reads_text h).groups?_eq
    rw [← htext] at hgroups
    cases others with
    | nil =>
      -- The pattern without fragments has a group that does not capture.
      have hnever : groups? neverText = some [⟨0, neverText⟩] := by decide
      have hcount := countP_isCapturing_groups h
      rw [← Option.some.inj (hnever.symm.trans hgroups)] at hcount
      exact absurd (List.length_eq_zero_iff.1 hcount.symm) h
    | cons f others =>
      rw [(reads_text (List.cons_ne_nil f others)).groups?_eq] at hgroups
      have houter := congrArg (List.filter fun g => g.depth = 0) (Option.some.inj hgroups)
      rw [filter_groups_outer, filter_groups_outer] at houter
      have htexts := congrArg (List.map Group.text) houter
      rwa [List.map_map, List.map_map] at htexts
  · intro hmap
    have hothers : others ≠ [] := fun heq => h (by simpa [heq] using hmap.symm)
    rw [text_eq hothers, text_eq h, List.flatMap_def, hmap, List.flatMap_def]

end Pattern

end Diagnostics
