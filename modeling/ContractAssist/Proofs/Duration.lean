import ContractAssist.Duration
import ContractAssist.Proofs.Text.Numeral
import Mathlib.Data.List.Basic

/-!
# Duration — what a written span says

A span is written for people, in one of several forms.  Whatever the form, it says how many whole
milliseconds the span has, and nothing else:

1. `Duration.readMillis?` reads a number with its unit, and `readMillis?_whole` and
   `readMillis?_fraction` say what it makes of the two shapes of a written span;
2. `readMillis?_format`: a written span is read as its whole milliseconds;
3. `format_faithful`: so two spans look the same just if these are the same.
-/

namespace ContractAssist

open Text

/-! ## Units -/

inductive TimeUnit where
  | millisecond
  | second
  | minute
  | hour
  deriving DecidableEq, Repr

namespace TimeUnit

def name : TimeUnit → Text
  | millisecond => "ms"
  | second => "s"
  | minute => "m"
  | hour => "h"

def millis : TimeUnit → Nat
  | millisecond => 1
  | second => 1000
  | minute => 60 * 1000
  | hour => 60 * 60 * 1000

def ofName? (t : Text) : Option TimeUnit :=
  [millisecond, second, minute, hour].find? fun u => u.name = t

theorem ofName?_name (u : TimeUnit) : ofName? u.name = some u := by
  cases u <;> decide

/-- The letters of a unit are not part of the number before them. -/
theorem head?_name (u : TimeUnit) : u.name.head?.all (fun c => !c.isDigit) = true := by
  cases u <;> decide

end TimeUnit

namespace Duration

/-! ## Reading -/

/-- The milliseconds of a number with its unit; seconds may have exactly three decimals. -/
def readMillis? (t : Text) : Option Nat :=
  let whole := t.takeWhile Char.isDigit
  if whole.isEmpty then none
  else
    match t.dropWhile Char.isDigit with
    | ['.', a, b, c, 's'] =>
      if a.isDigit && b.isDigit && c.isDigit then
        some (decimalValue whole * 1000 + decimalValue [a, b, c])
      else none
    | name => (TimeUnit.ofName? name).map fun u => decimalValue whole * u.millis

theorem readMillis?_whole (n : Nat) (u : TimeUnit) :
    readMillis? (ofNat n ++ u.name) = some (n * u.millis) := by
  have hname : readMillis? (ofNat n ++ u.name) =
      (TimeUnit.ofName? u.name).map fun u => n * u.millis := by
    rw [readMillis?, takeWhile_digits (isDigit_of_mem_ofNat n) u.head?_name,
      dropWhile_digits (isDigit_of_mem_ofNat n) u.head?_name, decimalValue_ofNat]
    cases u <;> simp [ofNat_ne_nil, TimeUnit.name]
  rw [hname, TimeUnit.ofName?_name]
  rfl

theorem readMillis?_fraction (n : Nat) {millis : Nat} (h : millis < 1000) :
    readMillis? (ofNat n ++ "." ++ ofNatPadded 3 millis ++ "s") = some (n * 1000 + millis) := by
  have hlength : (ofNatPadded 3 millis).length = 3 := length_ofNatPadded (by decide) h
  obtain ⟨a, b, c, habc⟩ := List.length_eq_three.1 hlength
  have hdigits := isDigit_of_mem_ofNatPadded 3 millis
  have hvalue := decimalValue_ofNatPadded 3 millis
  rw [habc] at hdigits hvalue
  have hrest : ofNat n ++ "." ++ ofNatPadded 3 millis ++ "s" = ofNat n ++ ['.', a, b, c, 's'] := by
    rw [habc]
    simp
  rw [hrest, readMillis?, takeWhile_digits (isDigit_of_mem_ofNat n) rfl,
    dropWhile_digits (isDigit_of_mem_ofNat n) rfl]
  simp [ofNat_ne_nil, decimalValue_ofNat, hdigits, hvalue]

/-! ## Writing and reading -/

theorem seconds_eq (d : Duration) : d.seconds = d.millis / 1000 := by
  simp only [seconds, millis, nanosPerSecond, nanosPerMilli, Nat.div_div_eq_div_mul]

/-- A span is written as a whole number of some unit, or as seconds with three decimals. -/
theorem format_cases (d : Duration) :
    (∃ n u, d.format = ofNat n ++ TimeUnit.name u ∧ d.millis = n * TimeUnit.millis u) ∨
      ∃ n millis, millis < 1000 ∧ d.format = ofNat n ++ "." ++ ofNatPadded 3 millis ++ "s" ∧
        d.millis = n * 1000 + millis := by
  have hsplit : d.millis = d.seconds * 1000 + d.millis % 1000 := by
    rw [seconds_eq]
    omega
  by_cases hzero : d.seconds = 0
  · refine .inl ⟨d.millis % 1000, .millisecond, ?_, ?_⟩
    · simp [format, hzero, TimeUnit.name]
    · rw [hzero] at hsplit
      simpa [TimeUnit.millis] using hsplit
  by_cases hmillis : d.millis % 1000 = 0
  · left
    rw [hmillis, Nat.add_zero] at hsplit
    by_cases hhours : d.seconds % 3600 = 0
    · refine ⟨d.seconds / 3600, .hour, ?_, ?_⟩
      · simp [format, hzero, hmillis, hhours, TimeUnit.name]
      · rw [hsplit, TimeUnit.millis, ← Nat.mul_assoc,
          Nat.div_mul_cancel (Nat.dvd_of_mod_eq_zero hhours)]
    by_cases hminutes : d.seconds % 60 = 0
    · refine ⟨d.seconds / 60, .minute, ?_, ?_⟩
      · simp [format, hzero, hmillis, hhours, hminutes, TimeUnit.name]
      · rw [hsplit, TimeUnit.millis, ← Nat.mul_assoc,
          Nat.div_mul_cancel (Nat.dvd_of_mod_eq_zero hminutes)]
    · refine ⟨d.seconds, .second, ?_, hsplit⟩
      simp [format, hzero, hmillis, hhours, hminutes, TimeUnit.name]
  · refine .inr ⟨d.seconds, d.millis % 1000, Nat.mod_lt _ (by decide), ?_, hsplit⟩
    simp [format, hzero, hmillis]

/-- A written span is read as its whole milliseconds. -/
theorem readMillis?_format (d : Duration) : readMillis? d.format = some d.millis := by
  rcases format_cases d with ⟨n, u, hformat, hmillis⟩ | ⟨n, millis, hlt, hformat, hmillis⟩
  · rw [hformat, hmillis, readMillis?_whole]
  · rw [hformat, hmillis, readMillis?_fraction n hlt]

/-- What is written of a span depends on its whole milliseconds only. -/
theorem format_congr {d e : Duration} (h : d.millis = e.millis) : d.format = e.format := by
  simp only [format, seconds_eq, h]

/--
A written span is a number with its unit, and says how many whole milliseconds the span has; so two
spans look the same just if they have as many.
-/
theorem format_faithful (d e : Duration) :
    readMillis? d.format = some (d.nanos / 1000000) ∧
      (d.format = e.format ↔ d.nanos / 1000000 = e.nanos / 1000000) := by
  refine ⟨readMillis?_format d, ?_, format_congr⟩
  intro hsame
  have hread := readMillis?_format d
  rw [hsame, readMillis?_format e] at hread
  exact (Option.some.inj hread).symm

/-- A minute and a half comes without decimals, and a nanosecond less with three. -/
example : format ⟨90000000000⟩ = ("90s" : Text) ∧ format ⟨89999999999⟩ = ("89.999s" : Text) := by
  decide

end Duration
end ContractAssist
