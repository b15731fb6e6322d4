import ContractAssist.Text.Basic

/-!
# Text.Numeral — natural numbers in base ten

* `decimalValue_ofNat` and `decimalValue_ofNatPadded`: a number is read back from its digits, with
  or without zeros in front;
* `isDigit_of_mem_ofNat` and `length_ofNatPadded` say what these digits look like;
* `takeWhile_digits` and `dropWhile_digits`: behind something else than a digit, a number ends;
* `natural64?_ofNat`: a number of at most 64 bits is read back as such.
-/

namespace ContractAssist
namespace Text

/-! ## Digits -/

theorem ofNat_ne_nil (n : Nat) : ofNat n ≠ [] :=
  Nat.toDigits_ne_nil

theorem isDigit_of_mem_ofNat (n : Nat) : ∀ c ∈ ofNat n, c.isDigit = true :=
  fun _ hc => Nat.isDigit_of_mem_toDigits (by decide) (by decide) hc

theorem isDigit_of_mem_ofNatPadded (width n : Nat) :
    ∀ c ∈ ofNatPadded width n, c.isDigit = true := by
  intro c hc
  rcases List.mem_append.1 hc with hzero | hdigit
  · rw [List.eq_of_mem_replicate hzero]
    rfl
  · exact isDigit_of_mem_ofNat n c hdigit

/-- A number that fits is padded to exactly the width. -/
theorem length_ofNatPadded {width n : Nat} (hwidth : 0 < width) (h : n < Nat.pow 10 width) :
    (ofNatPadded width n).length = width := by
  have hfits : (ofNat n).length ≤ width := (Nat.length_toDigits_le_iff (by decide) hwidth).2 h
  simp [ofNatPadded, List.leftpad, hfits]

/-! ## Values -/

theorem decimalValue_eq (digits : Text) : decimalValue digits = Nat.ofDigitChars 10 digits 0 := by
  simp only [decimalValue, Nat.ofDigitChars_eq_foldl, Nat.mul_comm]
  rfl

theorem decimalValue_ofNat (n : Nat) : decimalValue (ofNat n) = n := by
  calc
    decimalValue (ofNat n) = Nat.ofDigitChars 10 (Nat.toDigits 10 n) 0 := decimalValue_eq _
    _ = n := Nat.ofDigitChars_toDigits (by decide) (by decide)

theorem decimalValue_zeros (count : Nat) (digits : Text) :
    decimalValue (List.replicate count '0' ++ digits) = decimalValue digits := by
  induction count with
  | zero => rfl
  | succ count ih => exact ih

theorem decimalValue_ofNatPadded (width n : Nat) : decimalValue (ofNatPadded width n) = n :=
  (decimalValue_zeros _ _).trans (decimalValue_ofNat n)

theorem ofNat_of_head?_zero {n : Nat} (h : (ofNat n).head? = some '0') : ofNat n = ['0'] := by
  induction n using Nat.strongRecOn with
  | ind n ih =>
    by_cases hsmall : n < 10
    · have hdigits : ofNat n = [n.digitChar] := Nat.toDigits_of_lt_base hsmall
      rw [hdigits] at h ⊢
      exact congrArg (fun c => [c]) (Option.some.inj h)
    · have hdigits : ofNat n = ofNat (n / 10) ++ [(n % 10).digitChar] :=
        Nat.toDigits_of_base_le (by decide) (by omega)
      have hne : ofNat (n / 10) ≠ [] := Nat.toDigits_ne_nil
      have hfront : (ofNat (n / 10)).head? = some '0' := by
        obtain ⟨c, rest, hcons⟩ := List.exists_cons_of_ne_nil hne
        simpa [hdigits, hcons] using h
      -- all digits but the last one would be a zero, but their number is not zero
      have hzero : n / 10 = 0 := by
        have hvalue := decimalValue_ofNat (n / 10)
        rw [ih (n / 10) (by omega) hfront] at hvalue
        exact hvalue.symm
      omega

/-! ## Numbers in a text -/

variable {digits rest : Text}

theorem takeWhile_digits (h : ∀ c ∈ digits, c.isDigit = true)
    (hrest : rest.head?.all fun c => !c.isDigit) :
    (digits ++ rest).takeWhile Char.isDigit = digits := by
  rw [List.takeWhile_append_of_pos h]
  cases rest with
  | nil => rw [List.takeWhile_nil, List.append_nil]
  | cons c r =>
    have hc : ¬ c.isDigit = true := by simpa using hrest
    rw [List.takeWhile_cons_of_neg hc, List.append_nil]

theorem dropWhile_digits (h : ∀ c ∈ digits, c.isDigit = true)
    (hrest : rest.head?.all fun c => !c.isDigit) :
    (digits ++ rest).dropWhile Char.isDigit = rest := by
  rw [List.dropWhile_append_of_pos h]
  cases rest with
  | nil => rfl
  | cons c r =>
    have hc : ¬ c.isDigit = true := by simpa using hrest
    exact List.dropWhile_cons_of_neg hc

theorem natural64?_ofNat {n : Nat} (h : n < Nat.pow 2 64) : natural64? (ofNat n) = some n := by
  have hdigits := isDigit_of_mem_ofNat n
  have hunsigned : ∀ r, ofNat n ≠ '+' :: r := by
    intro r hr
    have hplus := hdigits '+' (by rw [hr]; exact List.mem_cons_self)
    exact absurd hplus (by decide)
  unfold natural64?
  split
  next r hr => exact absurd hr (hunsigned r)
  next => simpa [ofNat_ne_nil, decimalValue_ofNat, Option.filter, h] using hdigits

end Text
end ContractAssist
