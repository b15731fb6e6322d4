import ContractAssist.Text.Basic

/-!
# Decimal — decimal numbers and the end of double precision

* `Decimal.rounded` is the double-precision number next to a natural number;
* `Decimal.tooLarge` says that a decimal number is out of the range of double-precision numbers.
-/

namespace ContractAssist
namespace Decimal

/-- Double precision ends here: numbers from here on are nearer to the next power of two. -/
def doubleLimit : Nat := Nat.pow 2 1024 - Nat.pow 2 970

/-- The double-precision number next to a natural number: 53 bits, the even one of two. -/
def rounded (n : Nat) : Nat :=
  let unit := Nat.pow 2 (Nat.log2 n - 52)
  let low := n / unit
  let rest := n % unit
  let up := 2 * rest > unit ∨ (2 * rest = unit ∧ low % 2 = 1)
  (if up then low + 1 else low) * unit

/--
No double-precision number is near `digits` times ten to the power of `up`, divided by ten to the
power of `down`. The places of the first digits settle all but the close cases.
-/
def tooLarge (digits : Text) (up down : Nat) : Bool :=
  let digits := digits.dropWhile (· == '0')
  if digits.isEmpty then false
  else if digits.length + up > 310 + down then true
  else if digits.length + up < 300 + down then false
  else doubleLimit * Nat.pow 10 (down - up) ≤ Text.decimalValue digits * Nat.pow 10 (up - down)

end Decimal
end ContractAssist
