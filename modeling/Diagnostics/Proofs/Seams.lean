import Diagnostics.Proofs.Tokenization

/-!
# Templates in two parts

When the raw tokens of two texts are put side by side they are those of the whole text, unless the
last one of the first text takes in the beginning of the second one. As the grammar has it, they are
so exactly when the two raw tokens at the seam may stand side by side
(`rawTokens_append_eq_iff_mayPrecede`), since both lists keep to the grammar otherwise, and a text has
one tokenization only. This is a condition on the last raw token of the first text and on the first
character of the second one (`rawTokens_append_eq_iff`).

Whatever follows, the raw tokens in front of the last one stay as they are: a step of the scan changes
none but the last (`dropLast_prefix_dropLast_pushChar`), and so does the scan of any further text
(`dropLast_prefix_dropLast_foldl_pushChar`).
-/

namespace Diagnostics

/-! ## The scan of more text -/

/-- A step of the scan keeps all raw tokens but the last. -/
theorem dropLast_prefix_dropLast_pushChar (raws : List Text) (c : Char) :
    raws.dropLast <+: (pushChar raws c).dropLast := by
  rcases List.eq_nil_or_concat' raws with rfl | ⟨before, last, rfl⟩
  · exact List.nil_prefix
  · rw [pushChar_concat, List.dropLast_concat]
    split
    · rw [List.dropLast_concat]
      exact List.prefix_append before [last]
    · simp only [List.dropLast_concat, List.prefix_rfl]

/-- The scan of more text keeps all raw tokens but the last. -/
theorem dropLast_prefix_dropLast_foldl_pushChar (t : Text) (raws : List Text) :
    raws.dropLast <+: (t.foldl pushChar raws).dropLast := by
  induction t generalizing raws with
  | nil => exact List.prefix_rfl
  | cons c t ih => exact (dropLast_prefix_dropLast_pushChar raws c).trans (ih (pushChar raws c))

/-- The scan of a text in two parts goes on with the second part behind the raw tokens of the first.
-/
theorem rawTokens_append (a b : Text) : rawTokens (a ++ b) = b.foldl pushChar (rawTokens a) := by
  rw [← foldl_pushChar_eq, List.foldl_append, foldl_pushChar_eq]

/-! ## The seam -/

/-- The first raw token of a text begins as the text does. -/
theorem head?_of_mem_head?_rawTokens {t first : Text} (h : first ∈ (rawTokens t).head?) :
    first.head? = t.head? := by
  obtain ⟨raws, hraws⟩ := List.head?_eq_some_iff.1 h
  have hfirst : IsRawToken first :=
    (isTokenization_rawTokens t).isRawToken first (hraws ▸ List.mem_cons_self)
  obtain ⟨c, rest, rfl⟩ := hfirst.exists_eq_cons
  rw [← flatten_rawTokens t, hraws]
  rfl

/-- A text that is not empty has a first and a last raw token. -/
theorem rawTokens_ne_nil {t : Text} (h : t ≠ []) : rawTokens t ≠ [] := by
  intro hnil
  rw [← flatten_rawTokens t, hnil] at h
  exact h rfl

/-- The raw tokens of two texts are those of the whole text exactly when the two at the seam may stand
side by side. -/
theorem rawTokens_append_eq_iff_mayPrecede {a b : Text} :
    rawTokens (a ++ b) = rawTokens a ++ rawTokens b ↔
      ∀ last ∈ (rawTokens a).getLast?, ∀ first ∈ (rawTokens b).head?, MayPrecede last first := by
  obtain ⟨hflatten, hraws, hchain⟩ := isTokenization_rawTokens a
  obtain ⟨hflatten', hraws', hchain'⟩ := isTokenization_rawTokens b
  constructor
  · intro heq
    have hwhole := (isTokenization_rawTokens (a ++ b)).isChain
    rw [heq] at hwhole
    exact (List.isChain_append.1 hwhole).2.2
  · intro hseam
    have hwhole : IsTokenization (a ++ b) (rawTokens a ++ rawTokens b) := by
      refine ⟨?_, fun raw hraw => ?_, List.isChain_append.2 ⟨hchain, hchain', hseam⟩⟩
      · rw [List.flatten_append, hflatten, hflatten']
      · exact (List.mem_append.1 hraw).elim (hraws raw) (hraws' raw)
    exact hwhole.eq_rawTokens.symm

/-- A raw token may stand in front of one that begins with `d` if it is a placeholder; any other one
may if `d` is a percent sign, and it is no percent sign alone itself. -/
theorem mayPrecede_iff {last first : Text} {d : Char} (h : first.head? = some d) :
    MayPrecede last first ↔ isPlaceholder last = true ∨ d = '%' ∧ last ≠ ['%'] := by
  have hd : first.head? = some '%' ↔ d = '%' := by
    rw [h, Option.some.injEq]
  rw [MayPrecede, hd]
  cases hplaceholder : isPlaceholder last with
  | true =>
    have hlone : last ≠ ['%'] := by
      rintro rfl
      cases hplaceholder
    simp [hlone]
  | false => simp [and_comm]

/-- A template text in two parts can be cut into raw tokens part by part exactly if one of the parts
is empty, or the first part ends with a placeholder, or the second part begins with a percent sign
and the last raw token of the first part is no percent sign alone. In any case all raw tokens of the
first part but the last are raw tokens of the whole, at the same places. -/
theorem rawTokens_append_eq_iff (a b : Text) :
    (rawTokens (a ++ b) = rawTokens a ++ rawTokens b ↔
      a = [] ∨ b = [] ∨ (∃ last ∈ (rawTokens a).getLast?, isPlaceholder last = true) ∨
        b.head? = some '%' ∧ (rawTokens a).getLast? ≠ some ['%']) ∧
    (rawTokens a).dropLast <+: rawTokens (a ++ b) := by
  constructor
  · rw [rawTokens_append_eq_iff_mayPrecede]
    by_cases ha : a = []
    · subst ha
      simp [rawTokens]
    by_cases hb : b = []
    · subst hb
      simp [rawTokens]
    obtain ⟨last, hlast⟩ := Option.isSome_iff_exists.1 (List.getLast?_isSome.2 (rawTokens_ne_nil ha))
    obtain ⟨first, hfirst⟩ := Option.isSome_iff_exists.1 (List.isSome_head?.2 (rawTokens_ne_nil hb))
    obtain ⟨d, t, rfl⟩ := List.exists_cons_of_ne_nil hb
    have hd : first.head? = some d := head?_of_mem_head?_rawTokens hfirst
    simp [ha, hlast, hfirst, mayPrecede_iff hd]
  · rw [rawTokens_append]
    exact (dropLast_prefix_dropLast_foldl_pushChar b (rawTokens a)).trans (List.dropLast_prefix _)

/-- At the seam a percent sign alone makes a placeholder of what follows it, and the raw token in
front of it stays. -/
example : rawTokens "line %".toList = ["line ".toList, "%".toList] ∧
    rawTokens ("line %".toList ++ "l: ".toList) =
      ["line ".toList, "%l".toList, ": ".toList] := by
  decide +kernel

end Diagnostics
