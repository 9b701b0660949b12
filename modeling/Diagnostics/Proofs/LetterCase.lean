import Mathlib.Data.List.Chain
import Diagnostics.Text.Caseless
import Diagnostics.Text.Word

/-!
# Letters and their case

What the tables of letters say of all characters. A character is its own lower-case letter, or it
lies in one of the runs of letters (`simpleLower_cases`); the `caselessKey` of a character is its
lower-case letter, or the two are a pair of letter variants (`caselessKey_cases`). So the characters
with one lower-case letter are this letter and one in each run at most (`of_simpleLower_eq`), and a
look at each row of the tables tells the rest: a character whose lower-case letter comes from no run
is that letter itself (`eq_of_simpleLower_eq`), a lower-case letter is its own lower-case letter
(`simpleLower_simpleLower`), and for an ASCII letter the key and the lower-case letter are the same,
unless the character is one of two (`caselessKey_eq_iff`). A character is a word character if its
lower-case letter is one (`isWordChar_of_simpleLower`). Of whole texts, what is in lower case already
stays as it is (`Text.lower_lower`).
-/

namespace Diagnostics

/-! ## One character -/

/-- The lower-case code point is the code point itself, or comes from a run that holds it. -/
theorem lowerCodePoint_cases (runs : List LetterRun) (n : Nat) :
    lowerCodePoint runs n = n ∨ ∃ run ∈ runs, run.first ≤ n ∧ n ≤ run.last ∧
      (n - run.first) % run.step = 0 ∧ lowerCodePoint runs n = run.lower + (n - run.first) := by
  induction runs with
  | nil => exact Or.inl rfl
  | cons run rest ih =>
    rw [lowerCodePoint]
    split
    · refine ih.imp id ?_
      rintro ⟨run', hmem, hrun'⟩
      exact ⟨run', List.mem_cons_of_mem run hmem, hrun'⟩
    · rename_i hlast
      split
      · rename_i hfirst
        exact Or.inr
          ⟨run, List.mem_cons_self, hfirst.1, Nat.le_of_not_lt hlast, hfirst.2, rfl⟩
      · exact Or.inl rfl

/-- The lower-case letters of a run are characters. -/
theorem isValidChar_of_mem_letterRuns {run : LetterRun} (hrun : run ∈ letterRuns) {n : Nat}
    (hfirst : run.first ≤ n) (hlast : n ≤ run.last) :
    (run.lower + (n - run.first)).isValidChar := by
  have hrows : ∀ run ∈ letterRuns, run.lower + (run.last - run.first) < 0xD800 ∨
      0xDFFF < run.lower ∧ run.lower + (run.last - run.first) < 0x110000 := by decide +kernel
  have hrow := hrows run hrun
  unfold Nat.isValidChar
  omega

/-- A character is its own lower-case letter, or the lower-case letter comes from a run of letters
that holds the character. -/
theorem simpleLower_cases (c : Char) : simpleLower c = c ∨ ∃ run ∈ letterRuns,
    run.first ≤ c.toNat ∧ c.toNat ≤ run.last ∧ (c.toNat - run.first) % run.step = 0 ∧
      (simpleLower c).toNat = run.lower + (c.toNat - run.first) := by
  unfold simpleLower
  rcases lowerCodePoint_cases letterRuns c.toNat with
    hself | ⟨run, hrun, hfirst, hlast, hstep, heq⟩
  · rw [hself, Char.ofNat_toNat]
    exact Or.inl rfl
  · refine Or.inr ⟨run, hrun, hfirst, hlast, hstep, ?_⟩
    rw [heq, Char.ofNat, dif_pos (isValidChar_of_mem_letterRuns hrun hfirst hlast)]
    rfl

/-- What is true of a letter itself, and in each run of the character at the place of this letter, is
true of every character that has it for its lower-case letter. -/
theorem of_simpleLower_eq {P : Char → Prop} {c d : Char} (h : simpleLower c = d) (hself : P d)
    (hruns : ∀ run ∈ letterRuns, run.lower ≤ d.toNat →
      d.toNat ≤ run.lower + (run.last - run.first) →
      P (Char.ofNat (run.first + (d.toNat - run.lower)))) : P c := by
  rcases simpleLower_cases c with hc | ⟨run, hrun, hfirst, hlast, -, heq⟩
  · rw [← hc, h]
    exact hself
  · rw [h] at heq
    have hletter := hruns run hrun (by omega) (by omega)
    have hc : run.first + (d.toNat - run.lower) = c.toNat := by omega
    rwa [hc, Char.ofNat_toNat] at hletter

/-- A character whose lower-case letter is out of reach of all runs is that letter. -/
theorem eq_of_simpleLower_eq {c d : Char} (hd : ∀ run ∈ letterRuns, d.toNat < run.lower ∨
    run.lower + (run.last - run.first) < d.toNat) (h : simpleLower c = d) : c = d := by
  refine of_simpleLower_eq (P := (· = d)) h rfl fun run hrun hfirst hlast => ?_
  have hrow := hd run hrun
  omega

/-- Whether no letter of the second run is a lower-case letter of the first one: the second run lies
behind these or in front of them, or its letters and these take turns. -/
def LetterRun.isApart (run run' : LetterRun) : Bool :=
  (run.lower + (run.last - run.first)).blt run'.first || run'.last.blt run.lower ||
    run'.step.beq 2 && (run.step.beq 2 || run.first.beq run.last) &&
      ((run.lower + run'.first) % 2).beq 1

/-- The lower-case letters of the runs are in no run. -/
theorem isApart_of_mem_letterRuns {run run' : LetterRun} (hrun : run ∈ letterRuns)
    (hrun' : run' ∈ letterRuns) : run.isApart run' = true := by
  have hrows : (letterRuns.all fun run => letterRuns.all run.isApart) = true := by decide +kernel
  exact List.all_eq_true.1 (List.all_eq_true.1 hrows run hrun) run' hrun'

/-- A lower-case letter is its own lower-case letter. -/
theorem simpleLower_simpleLower (c : Char) : simpleLower (simpleLower c) = simpleLower c := by
  rcases simpleLower_cases c with hself | ⟨run, hrun, hfirst, hlast, hstep, heq⟩
  · rw [hself, hself]
  · have hcode : lowerCodePoint letterRuns (simpleLower c).toNat = (simpleLower c).toNat := by
      refine (lowerCodePoint_cases letterRuns _).resolve_right ?_
      rintro ⟨run', hrun', hfirst', hlast', hstep', -⟩
      have hapart := isApart_of_mem_letterRuns hrun hrun'
      simp only [LetterRun.isApart, Bool.or_eq_true, Bool.and_eq_true, Nat.blt_eq, Nat.beq_eq,
        heq] at hapart hfirst' hlast' hstep'
      rcases hapart with (hbehind | hbefore) | ⟨⟨htwo', htwo | hsingle⟩, hodd⟩
      · omega
      · omega
      · rw [htwo] at hstep
        rw [htwo'] at hstep'
        omega
      · rw [htwo'] at hstep'
        omega
    rw [simpleLower, hcode, Char.ofNat_toNat]

/-- The key of a character is its lower-case letter, or the two are a pair of letter variants. -/
theorem caselessKey_cases (c : Char) :
    caselessKey c = simpleLower c ∨ (simpleLower c, caselessKey c) ∈ letterVariants := by
  have hkey : caselessKey c = (letterVariants.lookup (simpleLower c)).getD (simpleLower c) := rfl
  cases hlookup : letterVariants.lookup (simpleLower c) with
  | none =>
    rw [hkey, hlookup]
    exact Or.inl rfl
  | some key =>
    obtain ⟨before, after, hvariants, -⟩ := List.lookup_eq_some_iff.1 hlookup
    rw [hkey, hlookup, hvariants]
    exact Or.inr (List.mem_append_right before List.mem_cons_self)

/-- The only character with the key of the line feed is the line feed. -/
theorem eq_lineFeed_of_caselessKey_eq {c : Char} (h : caselessKey c = '\n') : c = '\n' := by
  refine eq_of_simpleLower_eq (by decide +kernel) ?_
  rcases caselessKey_cases c with hkey | hmem
  · rw [← hkey, h]
  · rw [h] at hmem
    have hnone : ∀ pair ∈ letterVariants, pair.2 ≠ '\n' := by decide +kernel
    exact absurd rfl (hnone _ hmem)

/-- An ASCII letter is the key of a character exactly when it is its lower-case letter, the dotless
i and the long s apart, whose keys are i and s. -/
theorem caselessKey_eq_iff {c d : Char} (hd : d.toNat < 0x80) :
    simpleLower c = d ↔ caselessKey c = d ∧ c ≠ '\u0131' ∧ c ≠ '\u017F' := by
  have hkeys : ∀ pair ∈ letterVariants, 0x80 ≤ pair.1.toNat := by decide +kernel
  have hvalues : ∀ pair ∈ letterVariants, pair.2.toNat < 0x80 →
      pair.1 = '\u0131' ∨ pair.1 = '\u017F' := by decide +kernel
  constructor
  · rintro rfl
    refine ⟨?_, ?_, ?_⟩
    · refine (caselessKey_cases c).resolve_right fun hmem => ?_
      exact Nat.not_le_of_lt hd (hkeys _ hmem)
    all_goals
      rintro rfl
      revert hd
      decide +kernel
  · rintro ⟨rfl, hdotless, hlong⟩
    rcases caselessKey_cases c with hkey | hmem
    · exact hkey.symm
    · rcases hvalues _ hmem hd with heq | heq
      · exact absurd (eq_of_simpleLower_eq (by decide +kernel) heq) hdotless
      · exact absurd (eq_of_simpleLower_eq (by decide +kernel) heq) hlong

/-! ## Word characters in either case -/

/-- The ranges of word characters are in ascending order and apart. -/
theorem pairwise_wordRanges : wordRanges.Pairwise fun range range' => range.2 < range'.1 := by
  have hchain : wordRanges.IsChain fun range range' => range.1 ≤ range.2 ∧ range.2 < range'.1 := by
    decide +kernel
  have htrans : IsTrans (Nat × Nat) fun range range' => range.1 ≤ range.2 ∧ range.2 < range'.1 :=
    ⟨fun _ _ _ h h' => ⟨h.1, by omega⟩⟩
  exact hchain.pairwise.imp And.right

/-- Whether a letter of the run is a word character if its lower-case letter is: all letters of the
run lie in one range of word characters, or so it is with each of them. -/
def LetterRun.keepsWordChars (run : LetterRun) : Bool :=
  wordRanges.any (fun range => run.last.ble range.2 && range.1.ble run.first) ||
    (List.range (run.last + 1 - run.first)).all fun distance =>
      !(distance % run.step).beq 0 || !wordRanges.contains (run.lower + distance) ||
        wordRanges.contains (run.first + distance)

/-- A character is a word character if its lower-case letter is one. -/
theorem isWordChar_of_simpleLower {c : Char} (h : isWordChar (simpleLower c) = true) :
    isWordChar c = true := by
  have hruns : letterRuns.all LetterRun.keepsWordChars = true := by decide +kernel
  rcases simpleLower_cases c with hself | ⟨run, hrun, hfirst, hlast, hstep, heq⟩
  · rw [hself] at h
    exact h
  have hkeeps := List.all_eq_true.1 hruns run hrun
  simp only [LetterRun.keepsWordChars, Bool.or_eq_true, List.any_eq_true, List.all_eq_true,
    List.mem_range, Bool.and_eq_true, Bool.not_eq_true', Nat.ble_eq] at hkeeps
  rcases hkeeps with ⟨range, hrange, hlast', hfirst'⟩ | hletters
  · exact CodeRanges.contains_of_mem pairwise_wordRanges hrange (Nat.le_trans hfirst' hfirst)
      (Nat.le_trans hlast hlast')
  · have hletter := hletters (c.toNat - run.first) (by omega)
    rw [hstep, ← heq, Nat.add_sub_of_le hfirst] at hletter
    rcases hletter with (hstep' | hlower) | hword
    · cases hstep'
    · rw [isWordChar, hlower] at h
      cases h
    · exact hword

/-! ## Whole texts -/

/-- The lower-case form of a character is made of lower-case letters. -/
theorem simpleLower_of_mem_lowerChar {before after : Text} {c d : Char}
    (h : d ∈ lowerChar before c after) : simpleLower d = d := by
  have hsigma : ∀ isFinal : Bool, simpleLower (if isFinal then '\u03C2' else '\u03C3') =
      if isFinal then '\u03C2' else '\u03C3' := by decide +kernel
  have hi : simpleLower 'i' = 'i' := by decide +kernel
  have hdot : simpleLower '\u0307' = '\u0307' := by decide +kernel
  unfold lowerChar at h
  split at h
  · rw [List.mem_singleton.1 h]
    exact hsigma _
  · split at h
    · rcases List.mem_pair.1 h with rfl | rfl
      · exact hi
      · exact hdot
    · rw [List.mem_singleton.1 h]
      exact simpleLower_simpleLower c

/-- A character that is its own lower-case letter is its own lower-case form, wherever it stands. -/
theorem lowerChar_of_simpleLower_eq {before after : Text} {c : Char} (h : simpleLower c = c) :
    lowerChar before c after = [c] := by
  have hsigma : c ≠ '\u03A3' := by
    rintro rfl
    revert h
    decide +kernel
  have hdot : c ≠ '\u0130' := by
    rintro rfl
    revert h
    decide +kernel
  rw [lowerChar, if_neg hsigma, if_neg hdot, h]

namespace Text

/-- The lower-case form of a text is made of lower-case letters. -/
theorem simpleLower_of_mem_lower {t : Text} {c : Char} (h : c ∈ t.lower) : simpleLower c = c := by
  suffices hafter : ∀ before, c ∈ lowerAfter before t → simpleLower c = c from hafter [] h
  clear h
  induction t with
  | nil => exact fun before h => absurd h List.not_mem_nil
  | cons d t ih =>
    intro before h
    rw [lowerAfter, List.mem_append] at h
    exact h.elim simpleLower_of_mem_lowerChar (ih _)

/-- A text of lower-case letters is its own lower-case form. -/
theorem lower_eq_self {t : Text} (h : ∀ c ∈ t, simpleLower c = c) : t.lower = t := by
  suffices hafter : ∀ before, lowerAfter before t = t from hafter []
  induction t with
  | nil => exact fun before => rfl
  | cons c t ih =>
    intro before
    obtain ⟨hc, ht⟩ := List.forall_mem_cons.1 h
    rw [lowerAfter, lowerChar_of_simpleLower_eq hc, ih ht, List.singleton_append]

/-- A lower-case form is its own lower-case form. -/
@[simp] theorem lower_lower (t : Text) : t.lower.lower = t.lower :=
  lower_eq_self fun _ => simpleLower_of_mem_lower

end Text

end Diagnostics
