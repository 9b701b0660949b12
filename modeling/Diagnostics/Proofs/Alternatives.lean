import Mathlib.Data.List.Sort
import Mathlib.Tactic.Tauto
import Diagnostics.Vocabulary.Basic

/-!
# The order of the alternatives

The words of a vocabulary are tried in the order of `IsTriedBefore`, a longer word before a shorter
one. It is a strict order that decides between any two different words (`isTriedBefore_of_not`), and
`insertAlternative` keeps a list sorted by it, so the alternatives of a vocabulary are its words
(`mem_alternatives`), each tried before all those after it (`pairwise_alternatives`). A word is not
the beginning of one that is tried later (`IsTriedBefore.not_prefix`).
-/

namespace Diagnostics.Vocabulary

/-- The order in which words are tried is transitive. -/
theorem IsTriedBefore.trans {u v w : Text} (h₁ : IsTriedBefore u v) (h₂ : IsTriedBefore v w) :
    IsTriedBefore u w := by
  rcases h₁ with h₁ | ⟨h₁, hlt₁⟩ <;> rcases h₂ with h₂ | ⟨h₂, hlt₂⟩
  · exact Or.inl (Nat.lt_trans h₂ h₁)
  · exact Or.inl (h₂ ▸ h₁)
  · exact Or.inl (h₁ ▸ h₂)
  · exact Or.inr ⟨h₂.trans h₁, List.lt_trans hlt₁ hlt₂⟩

/-- Of two different words one is tried before the other. -/
theorem isTriedBefore_of_not {v w : Text} (h : ¬IsTriedBefore v w) (hne : v ≠ w) :
    IsTriedBefore w v := by
  obtain ⟨hlength, hlt⟩ := not_or.1 h
  rcases Nat.lt_or_ge v.length w.length with hlonger | hle
  · exact Or.inl hlonger
  · have heq : v.length = w.length := by omega
    refine Or.inr ⟨heq, ?_⟩
    by_contra hge
    exact hne (Std.Trichotomous.trichotomous v w (fun h' => hlt ⟨heq.symm, h'⟩) hge)

/-- No word is tried before itself. -/
theorem not_isTriedBefore_self (w : Text) : ¬IsTriedBefore w w := by
  rintro (hlonger | ⟨-, hlt⟩)
  · exact Nat.lt_irrefl _ hlonger
  · exact List.lt_irrefl w hlt

instance : Std.Irrefl IsTriedBefore := ⟨not_isTriedBefore_self⟩

instance : Std.Antisymm IsTriedBefore :=
  ⟨fun v _ hbefore hafter => absurd (hbefore.trans hafter) (not_isTriedBefore_self v)⟩

/-- A word that is tried before another one is not the beginning of it. -/
theorem IsTriedBefore.not_prefix {v w : Text} (h : IsTriedBefore v w) : ¬v <+: w := by
  intro hprefix
  have hlength : v.length = w.length := by
    rcases h with hlonger | ⟨hsame, -⟩
    · exact absurd hprefix.length_le (Nat.not_le_of_lt hlonger)
    · exact hsame.symm
  obtain rfl := hprefix.eq_of_length hlength
  exact not_isTriedBefore_self v h

/-- A word that is tried before another one is not shorter. -/
theorem IsTriedBefore.length_le {v w : Text} (h : IsTriedBefore v w) : w.length ≤ v.length := by
  rcases h with h | ⟨h, -⟩ <;> omega

/-- Putting a word in its place adds that word. -/
theorem mem_insertAlternative {u word : Text} {words : List Text} :
    u ∈ insertAlternative word words ↔ u = word ∨ u ∈ words := by
  induction words with
  | nil => simp [insertAlternative]
  | cons w rest ih =>
    rw [insertAlternative]
    split
    · simp
    · simp only [List.mem_cons, ih]
      tauto

/-- A new word that is put in its place leaves the words in the order in which they are tried. -/
theorem pairwise_insertAlternative {word : Text} {words : List Text}
    (h : words.Pairwise IsTriedBefore) (hnew : word ∉ words) :
    (insertAlternative word words).Pairwise IsTriedBefore := by
  induction words with
  | nil => simp [insertAlternative]
  | cons w rest ih =>
    obtain ⟨hw, hrest⟩ := List.pairwise_cons.1 h
    obtain ⟨hne, hnew⟩ := not_or.1 (mt List.mem_cons.2 hnew)
    rw [insertAlternative]
    split
    · rename_i hbefore
      refine List.pairwise_cons.2 ⟨fun u hu => ?_, h⟩
      rcases List.mem_cons.1 hu with rfl | hu
      · exact hbefore
      · exact hbefore.trans (hw u hu)
    · rename_i hbefore
      refine List.pairwise_cons.2 ⟨fun u hu => ?_, ih hrest hnew⟩
      rcases mem_insertAlternative.1 hu with rfl | hu
      · exact isTriedBefore_of_not hbefore hne
      · exact hw u hu

/-- Putting words in their places one by one keeps exactly these words. -/
theorem mem_foldr_insertAlternative {u : Text} {words : List Text} :
    u ∈ words.foldr insertAlternative [] ↔ u ∈ words := by
  induction words with
  | nil => simp
  | cons w rest ih => rw [List.foldr_cons, mem_insertAlternative, ih, List.mem_cons]

/-- Putting distinct words in their places one by one brings them into the order in which they are
tried. -/
theorem pairwise_foldr_insertAlternative {words : List Text} (h : words.Nodup) :
    (words.foldr insertAlternative []).Pairwise IsTriedBefore := by
  induction words with
  | nil => exact List.Pairwise.nil
  | cons w rest ih =>
    obtain ⟨hw, hrest⟩ := List.nodup_cons.1 h
    exact pairwise_insertAlternative (ih hrest) (mt mem_foldr_insertAlternative.1 hw)

/-- The alternatives of a vocabulary are its words. -/
theorem mem_alternatives {vocabulary : Vocabulary} {word : Text} :
    word ∈ vocabulary.alternatives ↔ word ∈ vocabulary.table.words :=
  mem_foldr_insertAlternative

/-- The alternatives of a vocabulary are listed in the order in which they are tried. -/
theorem pairwise_alternatives (vocabulary : Vocabulary) :
    vocabulary.alternatives.Pairwise IsTriedBefore :=
  pairwise_foldr_insertAlternative vocabulary.table.nodup

/-- No word is tried twice. -/
theorem nodup_alternatives (vocabulary : Vocabulary) : vocabulary.alternatives.Nodup :=
  vocabulary.pairwise_alternatives.nodup

end Diagnostics.Vocabulary
