import Mathlib.Data.List.Basic
import Diagnostics.Text.Escaped

/-!
# Regular expressions and their groups

A regular expression is looked at in two ways. `groups?` reads any text from left to right and lists
its groups if the parentheses are balanced: a backslash takes the next character with it, and every
other parenthesis opens or closes a group. `IsExpression` says by rules of syntax that a text is a
regular expression with so many capturing groups. It knows only as much of the syntax as patterns
need.

A text is read in step (`Reads`) if reading it comes back to the groups that were open before, with
the groups of the text found on the way. Texts that are read in step can be put one after the other
(`Reads.append`) and between parentheses (`Reads.group`). So every regular expression is read in
step, and the capturing groups that are found in it are as many as the rules of syntax say
(`IsExpression.exists_reads`).
-/

namespace Diagnostics

/-! ## Groups of a text -/

/-- A part of a text between parentheses. -/
structure Group where
  /-- The number of groups around it. -/
  depth : Nat
  /-- The group, from its opening parenthesis to the closing one. -/
  text : Text
deriving DecidableEq, Repr

namespace Group

/-- The group, where further groups stand around it. -/
def within (depth : Nat) (g : Group) : Group where
  depth := depth + g.depth
  text := g.text

/-- Whether the group captures what it matches. Groups that begin with a question mark do not. -/
def isCapturing (g : Group) : Bool :=
  !(['(', '?'].isPrefixOf g.text)

/-- Without further groups around them, groups are as they are. -/
theorem map_within_zero (groups : List Group) : groups.map (within 0) = groups := by
  calc groups.map (within 0) = groups.map id :=
        List.map_congr_left fun g _ => congrArg (Group.mk · g.text) (Nat.zero_add g.depth)
    _ = groups := List.map_id groups

/-- The groups around groups and those around all of them add up. -/
theorem map_within_map_within (d e : Nat) (groups : List Group) :
    (groups.map (within d)).map (within e) = groups.map (within (e + d)) := by
  rw [List.map_map]
  exact List.map_congr_left fun g _ =>
    congrArg (Group.mk · g.text) (Nat.add_assoc e d g.depth).symm

/-- What stands around a group makes no difference to whether it captures. -/
theorem countP_isCapturing_within (depth : Nat) (groups : List Group) :
    (groups.map (within depth)).countP isCapturing = groups.countP isCapturing := by
  rw [List.countP_map]
  rfl

end Group

/-- The open groups, innermost first, with a piece added to the innermost one. What stands in no
group is passed over. -/
def addToInnermost (piece : Text) : List Text → List Text
  | [] => []
  | group :: outer => (group ++ piece) :: outer

/-- Reads on in a text, where the groups that are found have closed before, and those that are open,
innermost first, have been read so far. There is no result if a parenthesis closes nothing or a group
is left open. -/
def readGroups (found : List Group) (opened : List Text) : Text → Option (List Group)
  | [] => if opened = [] then some found else none
  | '\\' :: c :: t => readGroups found (addToInnermost ['\\', c] opened) t
  | '(' :: t => readGroups found (['('] :: opened) t
  | ')' :: t =>
    match opened with
    | [] => none
    | group :: outer =>
      readGroups (found ++ [⟨outer.length, group ++ [')']⟩])
        (addToInnermost (group ++ [')']) outer) t
  | c :: t => readGroups found (addToInnermost [c] opened) t

/-- The groups of a text in the order in which they close, if its parentheses are balanced. -/
def groups? (t : Text) : Option (List Group) :=
  readGroups [] [] t

/-- Whether the character is neither a parenthesis nor a backslash. -/
def isPlain (c : Char) : Bool :=
  c != '(' && c != ')' && c != '\\'

/-- To add nothing changes nothing. -/
theorem addToInnermost_nil (opened : List Text) : addToInnermost [] opened = opened := by
  cases opened with
  | nil => rfl
  | cons group outer => rw [addToInnermost, List.append_nil]

/-- Two pieces are added one after the other. -/
theorem addToInnermost_append (s t : Text) (opened : List Text) :
    addToInnermost (s ++ t) opened = addToInnermost t (addToInnermost s opened) := by
  cases opened with
  | nil => rfl
  | cons group outer => simp only [addToInnermost, List.append_assoc]

/-- To add a piece opens and closes no group. -/
theorem length_addToInnermost (t : Text) (opened : List Text) :
    (addToInnermost t opened).length = opened.length := by
  cases opened <;> rfl

/-! ## Texts that are read in step -/

/-- Whatever was found, whatever groups are open and whatever follows, reading the text finds these
groups in it and leaves the open groups open. -/
def Reads (t : Text) (groups : List Group) : Prop :=
  ∀ found opened rest, readGroups found opened (t ++ rest) =
    readGroups (found ++ groups.map (Group.within opened.length)) (addToInnermost t opened) rest

namespace Reads

variable {s t : Text} {groups groups' : List Group}

/-- The groups of a text that is read in step. -/
theorem groups?_eq (h : Reads t groups) : groups? t = some groups := by
  have hread := h [] [] []
  rw [List.append_nil, List.nil_append, List.length_nil, Group.map_within_zero] at hread
  exact hread

/-- The empty text is read in step. -/
theorem nil : Reads [] [] := by
  intro found opened rest
  rw [List.map_nil, List.append_nil, addToInnermost_nil]
  rfl

/-- Two texts that are read in step are so one after the other. -/
theorem append (hs : Reads s groups) (ht : Reads t groups') :
    Reads (s ++ t) (groups ++ groups') := by
  intro found opened rest
  rw [List.append_assoc, hs, ht, length_addToInnermost, addToInnermost_append, List.map_append,
    List.append_assoc]

/-- A text without parentheses and backslashes is read in step. -/
theorem plain (h : t.all isPlain = true) : Reads t [] := by
  induction t with
  | nil => exact nil
  | cons c t ih =>
    rw [List.all_cons, Bool.and_eq_true] at h
    obtain ⟨hc, ht⟩ := h
    simp only [isPlain, Bool.and_eq_true, bne_iff_ne] at hc
    obtain ⟨⟨hopen, hclose⟩, hbackslash⟩ := hc
    have hchar : Reads [c] [] := by
      intro found opened rest
      rw [List.map_nil, List.append_nil, List.singleton_append]
      rw [readGroups]
      · exact fun _ _ heq _ => hbackslash heq
      · exact hopen
      · exact hclose
    exact hchar.append (ih ht)

/-- A character with a backslash in front is read in step. -/
theorem escape (c : Char) : Reads ['\\', c] [] := by
  intro found opened rest
  rw [List.map_nil, List.append_nil]
  rfl

/-- A text that is read in step is so between parentheses, where it is a group around its groups. -/
theorem group (h : Reads t groups) :
    Reads ('(' :: t ++ [')']) (groups.map (Group.within 1) ++ [⟨0, '(' :: t ++ [')']⟩]) := by
  intro found opened rest
  have hopen : readGroups found opened ('(' :: t ++ [')'] ++ rest) =
      readGroups found (['('] :: opened) (t ++ ')' :: rest) := by
    rw [List.append_assoc]
    rfl
  have hclose : ∀ found, readGroups found (addToInnermost t (['('] :: opened)) (')' :: rest) =
      readGroups (found ++ [⟨opened.length, '(' :: t ++ [')']⟩])
        (addToInnermost ('(' :: t ++ [')']) opened) rest := fun found => rfl
  rw [hopen, h, hclose, List.map_append, Group.map_within_map_within, List.append_assoc,
    List.length_cons]
  rfl

end Reads

/-! ## Rules of syntax -/

/-- The characters that do not stand for themselves in a regular expression. -/
def metacharacters : Text :=
  ".^$*+?\x7b\x7d[]\\|()".toList

/-- A member of a set of characters: the line feed, or a character that is given by the two digits
of its code point. -/
inductive IsSetMember : Text → Prop where
  /-- The line feed. -/
  | lineFeed : IsSetMember ['\\', 'n']
  /-- The character with that code point. -/
  | codePoint {d e : Char} : d ∈ "0123456789abcdef".toList → e ∈ "0123456789abcdef".toList →
    IsSetMember ['\\', 'x', d, e]

/-- The text is a regular expression for one character. -/
inductive IsSingle : Text → Prop where
  /-- A character that stands for itself. -/
  | char {c : Char} : c ∉ metacharacters → IsSingle [c]
  /-- A character that is no letter or digit of ASCII stands for itself behind a backslash. -/
  | escaped {c : Char} : c.isAlphanum = false → IsSingle ['\\', c]
  /-- A decimal digit. -/
  | digit : IsSingle ['\\', 'd']
  /-- White space. -/
  | blank : IsSingle ['\\', 's']
  /-- Any character but the members of a set. -/
  | complement {members : List Text} : members ≠ [] → (∀ t ∈ members, IsSetMember t) →
    IsSingle ('[' :: '^' :: members.flatten ++ [']'])

/-- The marks that let a character come any number of times, or once and more often. With a question
mark few times are preferred. -/
def quantifiers : List Text :=
  [['*'], ['+'], ['*', '?'], ['+', '?']]

/-- The text is a regular expression with `n` capturing groups. -/
inductive IsExpression : (n : Nat) → Text → Prop where
  /-- The empty expression. -/
  | nil : IsExpression 0 []
  /-- A character. -/
  | single {t : Text} : IsSingle t → IsExpression 0 t
  /-- A character so many times. -/
  | repeated {t quantifier : Text} : IsSingle t → quantifier ∈ quantifiers →
    IsExpression 0 (t ++ quantifier)
  /-- A word boundary. -/
  | wordBoundary : IsExpression 0 ['\\', 'b']
  /-- One expression after the other. -/
  | append {m n : Nat} {s t : Text} : IsExpression m s → IsExpression n t →
    IsExpression (m + n) (s ++ t)
  /-- One of two expressions. -/
  | choice {m n : Nat} {s t : Text} : IsExpression m s → IsExpression n t →
    IsExpression (m + n) (s ++ '|' :: t)
  /-- An expression without regard to case. -/
  | caseless {n : Nat} {t : Text} : IsExpression n t →
    IsExpression n ('(' :: (['?', 'i', ':'] ++ t) ++ [')'])
  /-- An expression whose match is captured. -/
  | capture {n : Nat} {t : Text} : IsExpression n t → IsExpression (n + 1) ('(' :: t ++ [')'])

/-- A member of a set is read in step. -/
theorem IsSetMember.reads {t : Text} (h : IsSetMember t) : Reads t [] := by
  cases h with
  | lineFeed => exact Reads.escape 'n'
  | @codePoint d e hd he =>
    have hdigits : "0123456789abcdef".toList.all isPlain = true := by decide
    have hplain := List.all_eq_true.1 hdigits
    refine (Reads.escape 'x').append (Reads.plain (t := [d, e]) ?_)
    rw [List.all_cons, hplain d hd, List.all_cons, hplain e he]
    rfl

/-- An expression for one character is read in step, without groups. -/
theorem IsSingle.reads {t : Text} (h : IsSingle t) : Reads t [] := by
  cases h with
  | @char c hc =>
    have hne : ∀ d, d ∈ metacharacters → c ≠ d := fun d hd heq => hc (heq ▸ hd)
    have hplain : isPlain c = true := by
      simp [isPlain, hne '(' (by decide), hne ')' (by decide), hne '\\' (by decide)]
    exact Reads.plain (by rw [List.all_cons, hplain]; rfl)
  | escaped => exact Reads.escape _
  | digit => exact Reads.escape 'd'
  | blank => exact Reads.escape 's'
  | @complement members hne hmembers =>
    clear hne
    have hflatten : Reads members.flatten [] := by
      induction members with
      | nil => exact Reads.nil
      | cons t members ih =>
        obtain ⟨ht, hothers⟩ := List.forall_mem_cons.1 hmembers
        exact ht.reads.append (ih hothers)
    have hopen : Reads ['[', '^'] [] := Reads.plain (by decide)
    have hclose : Reads [']'] [] := Reads.plain (by decide)
    exact (hopen.append hflatten).append hclose

/-- A quantifier is read in step. -/
theorem reads_of_mem_quantifiers {quantifier : Text} (h : quantifier ∈ quantifiers) :
    Reads quantifier [] := by
  have hmarks : quantifiers.all (fun quantifier => quantifier.all isPlain) = true := by decide
  exact Reads.plain (List.all_eq_true.1 hmarks quantifier h)

/-- No regular expression begins with a question mark. -/
theorem IsExpression.head?_ne {n : Nat} {t : Text} (h : IsExpression n t) : t.head? ≠ some '?' := by
  have hsingle : ∀ {t : Text}, IsSingle t → t ≠ [] ∧ t.head? ≠ some '?' := by
    intro t ht
    cases ht with
    | char hc =>
      refine ⟨by simp, fun heq => hc ?_⟩
      rw [Option.some.inj heq]
      decide
    | escaped | digit | blank | complement => exact ⟨by simp, by simp⟩
  induction h with
  | nil => simp
  | single ht => exact (hsingle ht).2
  | repeated ht =>
    obtain ⟨hne, hhead⟩ := hsingle ht
    rwa [List.head?_append_of_ne_nil _ hne]
  | wordBoundary => simp
  | append _ _ ihs iht =>
    rw [List.head?_append]
    intro heq
    rcases Option.or_eq_some_iff.1 heq with heq | ⟨-, heq⟩
    · exact ihs heq
    · exact iht heq
  | choice _ _ ihs =>
    rw [List.head?_append]
    intro heq
    rcases Option.or_eq_some_iff.1 heq with heq | ⟨-, heq⟩
    · exact ihs heq
    · simp at heq
  | caseless | capture => simp

/-- A regular expression is read in step, and the capturing groups that are found in it are as many
as the rules of syntax say. -/
theorem IsExpression.exists_reads {n : Nat} {t : Text} (h : IsExpression n t) :
    ∃ groups, Reads t groups ∧ groups.countP Group.isCapturing = n := by
  induction h with
  | nil => exact ⟨[], Reads.nil, rfl⟩
  | single ht => exact ⟨[], ht.reads, rfl⟩
  | repeated ht hquantifier =>
    exact ⟨[], ht.reads.append (reads_of_mem_quantifiers hquantifier), rfl⟩
  | wordBoundary => exact ⟨[], Reads.escape 'b', rfl⟩
  | append _ _ ihs iht =>
    obtain ⟨first, hs, rfl⟩ := ihs
    obtain ⟨later, ht, rfl⟩ := iht
    exact ⟨first ++ later, hs.append ht, List.countP_append⟩
  | choice _ _ ihs iht =>
    obtain ⟨first, hs, rfl⟩ := ihs
    obtain ⟨later, ht, rfl⟩ := iht
    exact ⟨first ++ later, hs.append ((Reads.plain (t := ['|']) (by decide)).append ht),
      List.countP_append⟩
  | caseless _ ih =>
    obtain ⟨inner, ht, rfl⟩ := ih
    refine ⟨_, ((Reads.plain (t := ['?', 'i', ':']) (by decide)).append ht).group, ?_⟩
    rw [List.nil_append, List.countP_append, Group.countP_isCapturing_within]
    rfl
  | @capture n t ht ih =>
    obtain ⟨inner, hreads, rfl⟩ := ih
    have hcapturing : Group.isCapturing ⟨0, '(' :: t ++ [')']⟩ = true := by
      have hhead := ht.head?_ne
      cases t with
      | nil => rfl
      | cons c t =>
        have hne : '?' ≠ c := fun heq => hhead (congrArg some heq.symm)
        simp [Group.isCapturing, List.isPrefixOf, hne]
    refine ⟨_, hreads.group, ?_⟩
    rw [List.countP_append, Group.countP_isCapturing_within, List.countP_singleton, hcapturing]
    rfl

end Diagnostics
