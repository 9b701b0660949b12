import Diagnostics.Proofs.CutOffCodes

/-!
# Codes that stripping leaves behind

A text is stripped in one pass, so what stands on the two sides of a code that is removed comes
together. A text has an escape code exactly when stripping changes it (`strip_eq_self_iff`), and a
stripped text has one exactly when a code that is cut off stood right in front of one that was
removed, and what is left of the text behind completes it (`hasCode_strip_iff`). Two ESC in front of
a colour are enough (`strip_brings_together`).
-/

namespace Diagnostics.EscapeCode

/-- An escape code stands somewhere in the text. -/
def HasCode (t : Text) : Prop :=
  ∃ code, IsEscapeCode code ∧ code <:+: t

/-- An escape code begins with an ESC, and whatever follows it, a code is read behind this ESC. -/
theorem IsEscapeCode.exists_eq_cons {code : Text} (h : IsEscapeCode code) :
    ∃ body, code = esc :: body ∧ ∀ rest, afterCode? (body ++ rest) ≠ none := by
  rcases h with hcode | rfl
  · obtain ⟨body, rfl, hafter⟩ := hcode.afterCode?_append
    exact ⟨body, rfl, fun rest => by rw [hafter rest]; exact Option.some_ne_none rest⟩
  · exact ⟨[']'], rfl, fun rest => Option.some_ne_none _⟩

/-- The empty text has no escape code. -/
theorem not_hasCode_nil : ¬HasCode [] := by
  rintro ⟨code, hcode, hinfix⟩
  obtain ⟨body, rfl, -⟩ := hcode.exists_eq_cons
  exact List.cons_ne_nil _ _ (List.infix_nil.1 hinfix)

/-- The first character of a text begins an escape code, or such a code stands behind it. -/
theorem hasCode_cons_iff {c : Char} {t : Text} :
    HasCode (c :: t) ↔ c = esc ∧ afterCode? t ≠ none ∨ HasCode t := by
  constructor
  · rintro ⟨code, hcode, hinfix⟩
    rcases List.infix_cons_iff.1 hinfix with ⟨rest, heq⟩ | hinfix
    · obtain ⟨body, rfl, hafter⟩ := hcode.exists_eq_cons
      obtain ⟨rfl, rfl⟩ := List.cons.inj heq
      exact Or.inl ⟨rfl, hafter rest⟩
    · exact Or.inr ⟨code, hcode, hinfix⟩
  · rintro (⟨rfl, hafter⟩ | ⟨code, hcode, hinfix⟩)
    · obtain ⟨rest, hrest⟩ := Option.ne_none_iff_exists'.1 hafter
      obtain ⟨code, hcode, heq⟩ := exists_isEscapeCode hrest
      exact ⟨code, hcode, [], rest, heq.symm⟩
    · exact ⟨code, hcode, hinfix.trans (List.suffix_cons c t).isInfix⟩

/-- Stripping makes no text longer. -/
theorem length_strip_le (t : Text) : (strip t).length ≤ t.length := by
  fun_induction strip t with
  | case1 => exact Nat.le_refl 0
  | case2 t rest hrest hlength ih => exact ih.trans (Nat.le_succ_of_le hlength)
  | case3 t hnone ih => exact Nat.succ_le_succ ih
  | case4 c t hc ih => exact Nat.succ_le_succ ih

/-- Stripping leaves a text as it is exactly when the text has no escape code. -/
theorem strip_eq_self_iff {t : Text} : strip t = t ↔ ¬HasCode t := by
  induction t with
  | nil => exact iff_of_true (by rw [strip]) not_hasCode_nil
  | cons c t ih =>
    rw [hasCode_cons_iff, not_or, ← ih]
    by_cases hc : c = esc
    · subst hc
      cases hread : afterCode? t with
      | none =>
        rw [strip_cons_of_eq_none hread, List.cons.injEq]
        simp
      | some rest =>
        refine iff_of_false (fun heq => ?_) (by simp)
        -- The code is not in the stripped text, which is therefore shorter.
        have hlength := length_strip_le rest
        rw [← strip_cons_of_eq_some hread, heq] at hlength
        exact absurd hlength (Nat.not_le_of_lt (Nat.lt_succ_of_le (length_afterCode? hread)))
    · rw [strip_cons_of_ne hc, List.cons.injEq]
      simp [hc]

/-- A command string that is not closed is not closed by less text. -/
theorem afterCommandString?_of_append {t more : Text} (h : afterCommandString? (t ++ more) = none) :
    afterCommandString? t = none := by
  cases hread : afterCommandString? t with
  | none => rfl
  | some rest =>
    obtain ⟨payload, terminator, rfl, hbel, hesc, hterminator⟩ :=
      exists_of_afterCommandString?_eq_some hread
    rw [List.append_assoc, List.append_assoc,
      afterCommandString?_append hbel hesc hterminator] at h
    cases h

/-- A code that is read in a text is also removed where the text behind it is cut short. -/
theorem exists_strip_append_eq {t rest : Text} (h : afterCode? t = some rest) : ∃ code,
    esc :: t = code ++ rest ∧ ∀ before more, rest = before ++ more →
      strip (code ++ before) = strip before := by
  rcases afterCode?_eq_some_iff.1 h with ⟨body, rfl, hcode⟩ | ⟨rfl, hstring⟩
  · exact ⟨esc :: body, rfl, fun before _ _ => strip_append_of_isCode hcode before⟩
  · refine ⟨[esc, ']'], rfl, fun before more heq => strip_cons_of_eq_some ?_⟩
    exact afterCode?_eq_some_iff.2 (Or.inr ⟨rfl, afterCommandString?_of_append (heq ▸ hstring)⟩)

/-- If a code is read behind an ESC only after the text is stripped, then a code that is cut off
stands there right in front of one that is removed. -/
theorem exists_isCutOff_of_strip {t : Text} (hnone : afterCode? t = none)
    (hsome : afterCode? (strip t) ≠ none) : ∃ opening code rest, t = opening ++ (code ++ rest) ∧
      IsCutOff (esc :: opening) ∧ IsEscapeCode code ∧ strip t = opening ++ strip rest := by
  obtain ⟨opening, tail, rfl, hcutOff, hbreaks⟩ := exists_isCutOff hnone
  have hesc : esc ∉ opening := by
    obtain ⟨_, heq, hesc⟩ := hcutOff.exists_eq_cons
    rwa [(List.cons.inj heq).2]
  rw [strip_append_of_notMem hesc] at hsome ⊢
  -- A tail whose first character is kept would break off the code after stripping, too.
  have hhead : (strip tail).head? ≠ tail.head? := fun heq => hsome (hbreaks _ heq)
  cases tail with
  | nil => exact absurd (by rw [strip]) hhead
  | cons c tail =>
    by_cases hc : c = esc
    · subst hc
      cases hread : afterCode? tail with
      | none => exact absurd (by rw [strip_cons_of_eq_none hread]; rfl) hhead
      | some rest =>
        obtain ⟨code, hcode, heq⟩ := exists_isEscapeCode hread
        exact ⟨opening, code, rest, by rw [heq], hcutOff, hcode,
          by rw [strip_cons_of_eq_some hread]⟩
    · exact absurd (by rw [strip_cons_of_ne hc]; rfl) hhead

/-- A stripped text has an escape code only if the text has a code that is cut off, right behind it
one that is removed, and then what completes the first one once it is stripped. -/
theorem exists_of_hasCode_strip {t : Text} (h : HasCode (strip t)) : ∃ before cutOff code rest,
    t = before ++ (cutOff ++ (code ++ rest)) ∧ IsCutOff cutOff ∧ IsEscapeCode code ∧
      strip t = strip before ++ (cutOff ++ strip rest) ∧
      ∃ completed, IsEscapeCode completed ∧ completed <+: cutOff ++ strip rest := by
  fun_induction strip t with
  | case1 => exact absurd h not_hasCode_nil
  | case2 t rest hrest hlength ih =>
    obtain ⟨before, cutOff, code, rest', rfl, hcutOff, hcode, hstrip, hcompleted⟩ := ih h
    obtain ⟨removed, heq, hremoved⟩ := exists_strip_append_eq hrest
    refine ⟨removed ++ before, cutOff, code, rest', ?_, hcutOff, hcode, ?_, hcompleted⟩
    · rw [heq, List.append_assoc]
    · rw [hremoved before _ rfl, hstrip]
  | case3 t hnone ih =>
    rcases hasCode_cons_iff.1 h with ⟨-, hsome⟩ | h
    · obtain ⟨opening, code, rest, rfl, hcutOff, hcode, hstrip⟩ :=
        exists_isCutOff_of_strip hnone hsome
      obtain ⟨after, hafter⟩ := Option.ne_none_iff_exists'.1 hsome
      obtain ⟨completed, hcompleted, heq⟩ := exists_isEscapeCode hafter
      refine ⟨[], esc :: opening, code, rest, rfl, hcutOff, hcode, ?_, completed, hcompleted,
        after, ?_⟩
      · rw [hstrip, strip]
        rfl
      · rw [← heq, hstrip]
        rfl
    · obtain ⟨before, cutOff, code, rest, rfl, hcutOff, hcode, hstrip, hcompleted⟩ := ih h
      have hbefore : afterCode? before = none := by
        cases hread : afterCode? before with
        | none => rfl
        | some after =>
          obtain ⟨after', hafter'⟩ :=
            exists_afterCode?_append hread (cutOff ++ (code ++ rest))
          cases hnone.symm.trans hafter'
      refine ⟨esc :: before, cutOff, code, rest, rfl, hcutOff, hcode, ?_, hcompleted⟩
      rw [strip_cons_of_eq_none hbefore, hstrip]
      rfl
  | case4 c t hc ih =>
    obtain ⟨before, cutOff, code, rest, rfl, hcutOff, hcode, hstrip, hcompleted⟩ :=
      ih ((hasCode_cons_iff.1 h).resolve_left fun hesc => hc hesc.1)
    refine ⟨c :: before, cutOff, code, rest, rfl, hcutOff, hcode, ?_, hcompleted⟩
    rw [strip_cons_of_ne hc, hstrip]
    rfl

/-- A stripped text has an escape code exactly when in the text a code that is cut off stands right
in front of a code that is removed, and with what is left of the text behind that one it begins with
a code. No escape code is left exactly when stripping once more changes nothing. So it is wherever
no code that is cut off stands right in front of an escape code. -/
theorem hasCode_strip_iff (t : Text) :
    (HasCode (strip t) ↔ ∃ before cutOff code rest,
      t = before ++ (cutOff ++ (code ++ rest)) ∧ IsCutOff cutOff ∧ IsEscapeCode code ∧
        strip t = strip before ++ (cutOff ++ strip rest) ∧
        ∃ completed, IsEscapeCode completed ∧ completed <+: cutOff ++ strip rest) ∧
    (¬HasCode (strip t) ↔ strip (strip t) = strip t) ∧
    ((∀ cutOff code, IsCutOff cutOff → IsEscapeCode code → ¬cutOff ++ code <:+: t) →
      ¬HasCode (strip t) ∧ strip (strip t) = strip t) := by
  refine ⟨⟨exists_of_hasCode_strip, ?_⟩, strip_eq_self_iff.symm, fun h => ?_⟩
  · rintro ⟨before, cutOff, code, rest, -, -, -, hstrip, completed, hcompleted, hbegins⟩
    refine ⟨completed, hcompleted, hbegins.isInfix.trans ?_⟩
    rw [hstrip]
    exact (List.suffix_append _ _).isInfix
  · have hnot : ¬HasCode (strip t) := by
      intro hcode
      obtain ⟨before, cutOff, code, rest, rfl, hcutOff, hcode, -⟩ := exists_of_hasCode_strip hcode
      exact h cutOff code hcutOff hcode ⟨before, rest, by simp⟩
    exact ⟨hnot, strip_eq_self_iff.2 hnot⟩

/-- An ESC alone stands in front of a colour, and behind the colour stands what looks like the rest
of another one. With the colour removed, the two come together and are a colour. -/
theorem strip_brings_together :
    strip "\x1b\x1b[0m[31mx".toList = "\x1b[31mx".toList ∧
      HasCode (strip "\x1b\x1b[0m[31mx".toList) ∧
      strip (strip "\x1b\x1b[0m[31mx".toList) ≠ strip "\x1b\x1b[0m[31mx".toList := by
  have hstrip : strip "\x1b\x1b[0m[31mx".toList = "\x1b[31mx".toList := by decide +kernel
  have hagain : strip "\x1b[31mx".toList = ['x'] := by decide +kernel
  have hchanges : strip (strip "\x1b\x1b[0m[31mx".toList) ≠ strip "\x1b\x1b[0m[31mx".toList := by
    rw [hstrip, hagain]
    decide
  exact ⟨hstrip, not_not.1 (mt strip_eq_self_iff.2 hchanges), hchanges⟩

end Diagnostics.EscapeCode
