import Mathlib.Algebra.Group.Int.Defs
import Mathlib.Algebra.Group.Nat.Defs
import Diagnostics.Extraction.Basic

/-!
# Decimal numerals are read back

`readPositive` reads digits that are not too many and do not all have the value zero
(`DenotesPositive`), and refuses all others (`readPositive_eq_ok_iff`, `readPositive_eq_error_iff`).
`decimal` writes a number that is not negative in ASCII digits (`isDigit_of_mem_decimal`), with the
value that `numeralValue` gives to them (`numeralValue_decimal`). So a positive number with at most
`maxNumeralLength` digits is what `readPositive` reads in its numeral (`readPositive_decimal`).
-/

namespace Diagnostics

/-- The value of an ASCII digit is its distance from `0`. -/
theorem digitValue?_of_isDigit {c : Char} (h : c.isDigit = true) :
    digitValue? c = some (c.toNat - '0'.toNat) := by
  obtain ⟨hlower, hupper⟩ : 0x30 ≤ c.toNat ∧ c.toNat ≤ 0x39 := by
    simpa [Char.isDigit, UInt32.le_iff_toNat_le] using h
  have hstart : digitRanges.start? c.toNat = some 0x30 := by
    rw [digitRanges, CodeRanges.start?, if_neg (Nat.not_lt.2 hupper), if_pos hlower]
  have hvalue : (c.toNat - 0x30) % 10 = c.toNat - 0x30 := Nat.mod_eq_of_lt (by omega)
  rw [digitValue?, hstart, Option.map_some, hvalue]
  rfl

/-- The value of a numeral in ASCII digits. -/
theorem numeralValue_of_isDigit {digits : Text} (h : ∀ c ∈ digits, c.isDigit = true) :
    numeralValue digits = Nat.ofDigitChars 10 digits 0 := by
  have hfoldl : ∀ n, digits.foldl (fun n c => 10 * n + (digitValue? c).getD 0) n =
      Nat.ofDigitChars 10 digits n := by
    induction digits with
    | nil => exact fun n => rfl
    | cons c digits ih =>
      intro n
      rw [List.foldl_cons, digitValue?_of_isDigit (h c List.mem_cons_self), Nat.ofDigitChars_cons]
      exact ih (fun d hd => h d (List.mem_cons_of_mem c hd)) _
  exact hfoldl 0

/-- The value of a numeral is below the power of ten that its length gives. -/
theorem numeralValue_lt (digits : Text) : numeralValue digits < 10 ^ digits.length := by
  have hdigit : ∀ c, (digitValue? c).getD 0 < 10 := by
    intro c
    rw [digitValue?]
    cases digitRanges.start? c.toNat with
    | none => exact Nat.zero_lt_succ 9
    | some first => exact Nat.mod_lt _ (by decide)
  -- The digits that come first are a number already; each further one multiplies it by ten.
  have hfoldl : ∀ n, digits.foldl (fun n c => 10 * n + (digitValue? c).getD 0) n <
      (n + 1) * 10 ^ digits.length := by
    induction digits with
    | nil => exact fun n => by simp
    | cons c digits ih =>
      intro n
      calc (c :: digits).foldl (fun n c => 10 * n + (digitValue? c).getD 0) n
          < (10 * n + (digitValue? c).getD 0 + 1) * 10 ^ digits.length := ih _
        _ ≤ (10 * (n + 1)) * 10 ^ digits.length :=
            Nat.mul_le_mul_right _ (by have := hdigit c; omega)
        _ = (n + 1) * 10 ^ (digits.length + 1) := by
            rw [Nat.pow_succ', ← Nat.mul_assoc, Nat.mul_comm 10]
  calc numeralValue digits < (0 + 1) * 10 ^ digits.length := hfoldl 0
    _ = 10 ^ digits.length := by rw [Nat.zero_add, Nat.one_mul]

/-- The digits are not too many, and they do not all have the value zero. -/
def DenotesPositive (digits : Text) : Prop :=
  digits.length ≤ maxNumeralLength ∧ ∃ c ∈ digits, ∃ n, digitValue? c = some n ∧ n ≠ 0

/-- A numeral has another value than zero exactly when one of its digits has. -/
theorem numeralValue_ne_zero_iff {digits : Text} :
    numeralValue digits ≠ 0 ↔ ∃ c ∈ digits, ∃ n, digitValue? c = some n ∧ n ≠ 0 := by
  have hdigit : ∀ c n, 10 * n + (digitValue? c).getD 0 ≠ 0 ↔
      n ≠ 0 ∨ ∃ k, digitValue? c = some k ∧ k ≠ 0 := by
    intro c n
    cases digitValue? c with
    | none =>
      simp only [Option.getD_none, reduceCtorEq, false_and, exists_false, or_false]
      omega
    | some k =>
      simp only [Option.getD_some, Option.some.injEq, exists_eq_left']
      omega
  have hfoldl : ∀ n, digits.foldl (fun n c => 10 * n + (digitValue? c).getD 0) n ≠ 0 ↔
      n ≠ 0 ∨ ∃ c ∈ digits, ∃ k, digitValue? c = some k ∧ k ≠ 0 := by
    induction digits with
    | nil => exact fun n => ⟨Or.inl, fun h => h.resolve_right fun ⟨_, hmem, _⟩ => nomatch hmem⟩
    | cons c digits ih =>
      intro n
      simp only [List.foldl_cons, ih, hdigit, List.mem_cons, or_and_right, exists_or,
        exists_eq_left, or_assoc]
  exact (hfoldl 0).trans (or_iff_right fun h => h rfl)

/-- The digits that denote a positive number are those that are read, and it is their value that is
read. -/
theorem readPositive_eq_ok_iff {field digits matched : Text} {n : Nat} :
    readPositive field digits matched = .ok n ↔
      DenotesPositive digits ∧ n = numeralValue digits := by
  rw [DenotesPositive, ← numeralValue_ne_zero_iff, readPositive, readNumeral]
  by_cases hlength : digits.length ≤ maxNumeralLength
  · by_cases hzero : numeralValue digits = 0 <;> simp [hlength, hzero, eq_comm]
  · simp [hlength]

/-- All other digits are refused, and the error names them. -/
theorem readPositive_eq_error_iff {field digits matched : Text} {e : ExtractionError} :
    readPositive field digits matched = .error e ↔
      ¬DenotesPositive digits ∧ e = .ofNumber field digits matched := by
  rw [DenotesPositive, ← numeralValue_ne_zero_iff, readPositive, readNumeral]
  by_cases hlength : digits.length ≤ maxNumeralLength
  · by_cases hzero : numeralValue digits = 0 <;> simp [hlength, hzero, eq_comm]
  · simp [hlength, eq_comm]

/-- Digits that denote a positive number have a value above zero and below a power of ten. -/
theorem DenotesPositive.bounds {digits : Text} (h : DenotesPositive digits) :
    1 ≤ (numeralValue digits : Int) ∧ (numeralValue digits : Int) < 10 ^ maxNumeralLength := by
  obtain ⟨hlength, hdigit⟩ := h
  have hpos := Nat.pos_of_ne_zero (numeralValue_ne_zero_iff.2 hdigit)
  have hlt := Nat.lt_of_lt_of_le (numeralValue_lt digits)
    (Nat.pow_le_pow_right (by decide) hlength)
  -- The power is kept as it is, and not computed.
  generalize maxNumeralLength = k at hlt ⊢
  exact ⟨by omega, by exact_mod_cast hlt⟩

/-- A number that is read is positive and has not too many digits. -/
theorem readPositive_bounds {field digits matched : Text} {n : Nat}
    (h : readPositive field digits matched = .ok n) :
    1 ≤ (n : Int) ∧ (n : Int) < 10 ^ maxNumeralLength := by
  obtain ⟨hdigits, rfl⟩ := readPositive_eq_ok_iff.1 h
  exact hdigits.bounds

section

variable {z : Int}

/-- A number that is not negative is written as the natural number that it is. -/
theorem decimal_of_nonneg (h : 0 ≤ z) : decimal z = Nat.toDigits 10 z.toNat := by
  obtain ⟨n, rfl⟩ := Int.eq_ofNat_of_zero_le h
  rfl

/-- Every number is written in some characters. -/
theorem decimal_ne_nil : decimal z ≠ [] := by
  cases z with
  | ofNat n => exact Nat.toDigits_ne_nil
  | negSucc n => exact List.cons_ne_nil _ _

/-- The characters of a number that is not negative are digits. -/
theorem isDigit_of_mem_decimal (h : 0 ≤ z) {c : Char} (hc : c ∈ decimal z) :
    isDigit c = true := by
  rw [decimal_of_nonneg h] at hc
  have hdigit := Nat.isDigit_of_mem_toDigits (by decide) (by decide) hc
  rw [← isSome_digitValue?, digitValue?_of_isDigit hdigit]
  rfl

/-- A number that is not negative is the value of its numeral. -/
theorem numeralValue_decimal (h : 0 ≤ z) : numeralValue (decimal z) = z.toNat := by
  rw [decimal_of_nonneg h, numeralValue_of_isDigit fun c hc =>
    Nat.isDigit_of_mem_toDigits (by decide) (by decide) hc]
  exact Nat.ofDigitChars_ten_toDigits

/-- A numeral has as many digits as the power of ten above its value says. -/
theorem length_decimal_le_iff (h : 0 ≤ z) {k : Nat} (hk : 0 < k) :
    (decimal z).length ≤ k ↔ z < 10 ^ k := by
  obtain ⟨n, rfl⟩ := Int.eq_ofNat_of_zero_le h
  rw [decimal_of_nonneg h, Int.toNat_natCast, Nat.length_toDigits_le_iff (by decide) hk]
  exact_mod_cast Iff.rfl

/-- A positive number that has not too many digits is read back. -/
theorem readPositive_decimal {field matched : Text} (hpos : 1 ≤ z)
    (hlt : z < 10 ^ maxNumeralLength) :
    readPositive field (decimal z) matched = .ok z.toNat := by
  have hnonneg : 0 ≤ z := by omega
  have hlength := (length_decimal_le_iff hnonneg (by decide)).2 hlt
  have hne : z.toNat ≠ 0 := by omega
  rw [readPositive, readNumeral, if_pos hlength, numeralValue_decimal hnonneg]
  exact if_neg hne

end

end Diagnostics
