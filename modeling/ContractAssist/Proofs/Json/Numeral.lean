import ContractAssist.Json.Printer
import ContractAssist.Proofs.Json.Grammar
import ContractAssist.Proofs.Text.Numeral

/-!
# Numeral — natural numbers keep their value

A natural number that is written in base ten is read back as itself, and if it has at most 64 bits
all its digits are taken up, so that it is well within the range of double-precision numbers.

1. `Numeral.natural?_ofNat` gives back the number;
2. `numeralSpells_ofNat`: its digits are a way to write it, for they do not begin with zero;
3. `Numeral.scaled_ofNat`: all digits are taken up, and none is left for a power of ten;
4. `Numeral.tooLarge_ofNat`: the number is not out of range.
-/

namespace ContractAssist
namespace Json

/-- The digits of a natural number are a way to write it. -/
theorem numeralSpells_ofNat (n : Nat) : NumeralSpells (.ofNat n) (Text.ofNat n) := by
  have hdigits : Digits (Text.ofNat n) :=
    ⟨Text.ofNat_ne_nil n, Text.isDigit_of_mem_ofNat n⟩
  have hparts : NumeralSpells (.ofNat n) ([] ++ Text.ofNat n ++ [] ++ []) :=
    .parts hdigits Text.ofNat_of_head?_zero .absent .absent
  simpa using hparts

namespace Numeral

theorem natural?_ofNat (n : Nat) : (Numeral.ofNat n).natural? = some n := by
  simp [natural?, Numeral.ofNat, Text.decimalValue_ofNat]

theorem le_foldl_digits (digits : Text) (value : Nat) :
    value ≤ digits.foldl (fun n c => n * 10 + (c.toNat - 48)) value := by
  induction digits generalizing value with
  | nil => exact Nat.le_refl value
  | cons c digits ih =>
    have hrest := ih (value * 10 + (c.toNat - 48))
    have hgrows : value ≤ value * 10 + (c.toNat - 48) := by omega
    exact Nat.le_trans hgrows hrest

/-- As long as the value has 64 bits in the end, all digits are taken up. -/
theorem takeUp_eq (digits : Text) (value : Nat)
    (h : digits.foldl (fun n c => n * 10 + (c.toNat - 48)) value < Nat.pow 2 64) :
    takeUp value digits =
      (digits.foldl (fun n c => n * 10 + (c.toNat - 48)) value, digits.length) := by
  induction digits generalizing value with
  | nil => rfl
  | cons c digits ih =>
    have hlonger : value * 10 + (c.toNat - 48) < Nat.pow 2 64 :=
      Nat.lt_of_le_of_lt (le_foldl_digits digits _) h
    have hrest := ih (value * 10 + (c.toNat - 48)) h
    simp only [takeUp, hlonger, if_true, hrest, List.foldl_cons, List.length_cons]

theorem scaled_ofNat {n : Nat} (h : n < Nat.pow 2 64) : (Numeral.ofNat n).scaled = (n, 0) := by
  have hvalue : (Text.ofNat n).foldl (fun n c => n * 10 + (c.toNat - 48)) 0 = n :=
    Text.decimalValue_ofNat n
  have htaken : takeUp 0 (Text.ofNat n) = (n, (Text.ofNat n).length) := by
    have htake := takeUp_eq (Text.ofNat n) 0
    simp only [hvalue] at htake
    exact htake h
  simp [scaled, Numeral.ofNat, htaken, takeUp]

/-- Rounding adds less than the number itself. -/
theorem rounded_le (n : Nat) : Decimal.rounded n ≤ 2 * n := by
  by_cases hzero : n = 0
  · subst hzero
    decide
  · generalize hunit : Nat.pow 2 (Nat.log2 n - 52) = unit
    have hsmall : unit ≤ n := by
      calc
        unit = 2 ^ (Nat.log2 n - 52) := hunit.symm
        _ ≤ 2 ^ Nat.log2 n := Nat.pow_le_pow_right (by decide) (Nat.sub_le _ _)
        _ ≤ n := Nat.log2_self_le hzero
    have hlow : n / unit * unit ≤ n := Nat.div_mul_le_self n unit
    simp only [Decimal.rounded, hunit]
    split
    · rw [Nat.add_one_mul]
      omega
    · omega

theorem tooLarge_ofNat {n : Nat} (h : n < Nat.pow 2 64) : (Numeral.ofNat n).tooLarge = false := by
  have hscaled : (Numeral.ofNat n).scaled = (n, 0) := scaled_ofNat h
  have hone : Decimal.rounded (Nat.pow 10 (0 : Int).toNat) = 1 := by decide
  have hlimit : 2 * Nat.pow 2 64 ≤ Decimal.doubleLimit := by decide +kernel
  have hrounded := rounded_le n
  have hproduct : ¬ Decimal.doubleLimit ≤
      Decimal.rounded n * Decimal.rounded (Nat.pow 10 (0 : Int).toNat) := by
    rw [hone, Nat.mul_one]
    omega
  simp only [tooLarge, hscaled, hproduct]
  by_cases hzero : n = 0
  · simp [hzero]
  · simp [hzero]

end Numeral
end Json
end ContractAssist
