import ContractAssist.Decimal

/-!
# Numeral — the written form of a JSON number

A numeral is kept as it is written, in parts, because a reader may want to know whether it has a
sign, a fraction or an exponent, and not only what it is worth.

* `Numeral` are the parts;
* `Numeral.natural?` is the value of a numeral that is nothing but digits;
* `Numeral.tooLarge` says that its value is out of the range of double-precision numbers.
-/

namespace ContractAssist
namespace Json

/-- A written number, in parts. The digits of each part stand in the order of writing. -/
structure Numeral where
  negative : Bool
  whole : Text
  -- the digits after the point, if there is one
  fraction : Option Text
  -- the exponent, if there is one: its sign is minus, and its digits
  exponent : Option (Bool × Text)
  deriving DecidableEq, Repr, Inhabited

namespace Numeral

/-- The value of a numeral without sign, point and exponent. -/
def natural? (n : Numeral) : Option Nat :=
  if n.negative ∨ n.fraction.isSome ∨ n.exponent.isSome then none
  else some (Text.decimalValue n.whole)

/--
Takes up digits as long as the value has 64 bits: the value, and how many digits were taken up.
-/
def takeUp (value : Nat) : Text → Nat × Nat
  | [] => (value, 0)
  | c :: r =>
    let longer := value * 10 + (c.toNat - 48)
    if longer < Nat.pow 2 64 then
      let (value, count) := takeUp longer r
      (value, count + 1)
    else (value, 0)

/-- The value of the leading digits, and the power of ten that it is to be multiplied by. -/
def scaled (n : Numeral) : Nat × Int :=
  let (value, before) := takeUp 0 n.whole
  let (value, after) := takeUp value (n.fraction.getD [])
  let dropped : Int := (n.whole.length - before : Nat)
  let shift : Int := n.exponent.elim 0 fun e =>
    if e.1 then -(Text.decimalValue e.2 : Int) else Text.decimalValue e.2
  (value, dropped - after + shift)

/--
The value is out of the range of double-precision numbers. It is the product of the value of the
leading digits and a power of ten, each of which is rounded before they are multiplied.
-/
def tooLarge (n : Numeral) : Bool :=
  let (value, power) := n.scaled
  if value = 0 ∨ power < 0 then false
  else if power > 308 then true
  else Decimal.doubleLimit ≤ Decimal.rounded value * Decimal.rounded (Nat.pow 10 power.toNat)

end Numeral
end Json
end ContractAssist
