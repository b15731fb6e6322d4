import ContractAssist.Text.Basic

/-!
# Double — numbers of double precision in decimal

A number of double precision is a natural number below two to the power of 53 times a power of two.
All conversions are exact up to one rounding to the nearest, ties to even.

* `Double.read?` reads the number at the front of a text;
* `Double.plain`, `Double.scientific`, `Double.shorter` and `Double.binary` write one.
-/

namespace ContractAssist

inductive Double where
  -- a number: its sign, and `mantissa` times two to the power of `exponent`
  | finite (negative : Bool) (mantissa : Nat) (exponent : Int)
  | infinite (negative : Bool)
  | undefined (negative : Bool)
  deriving DecidableEq, Repr, Inhabited

namespace Double

/-! ## Rounding -/

/-- The quotient rounded to the nearest, ties to even. -/
def roundDiv (a b : Nat) : Nat :=
  let q := a / b
  let r := a % b
  if b < 2 * r ∨ (2 * r = b ∧ q % 2 = 1) then q + 1 else q

/-- A number times a power of a base, as a fraction. -/
def scaled (base a : Nat) (power : Int) : Nat × Nat :=
  if 0 ≤ power then (a * Nat.pow base power.toNat, 1) else (a, Nat.pow base (-power).toNat)

/-- A mantissa has so many bits. -/
def bits : Nat := 53

def leastExponent : Int := -1074

def greatestExponent : Int := 971

/-- The exponent with which a fraction has a mantissa of full length, if there is such a number. -/
def exponentOf (a b : Nat) : Int :=
  let guess : Int := (Nat.log2 a : Int) - Nat.log2 b - bits
  let fits (e : Int) : Bool :=
    let (n, d) := scaled 2 b e
    a * d < Nat.pow 2 bits * n
  max leastExponent (if fits guess then guess else guess + 1)

/-- The number next to a fraction, and whether it is out of range. -/
def ofFraction (negative : Bool) (a b : Nat) : Double × Bool :=
  if a = 0 then (finite negative 0 0, false)
  else
    let e := exponentOf a b
    let (n, d) := scaled 2 b e
    let m := roundDiv (a * d) n
    let (m, e) := if m = Nat.pow 2 bits then (Nat.pow 2 (bits - 1), e + 1) else (m, e)
    let isTiny := m < Nat.pow 2 (bits - 1) && (a * d) % n ≠ 0
    if greatestExponent < e then (infinite negative, true) else (finite negative m e, isTiny)

/-! ## Reading -/

/-- Digits with a point between them, the number of places after it, and what follows. -/
def pointed (isDigit : Char → Bool) (t : Text) : Text × Nat × Text :=
  let whole := t.takeWhile isDigit
  match t.drop whole.length with
  | '.' :: r =>
    let places := r.takeWhile isDigit
    if whole.isEmpty && places.isEmpty then ([], 0, t)
    else (whole ++ places, places.length, r.drop places.length)
  | r => (whole, 0, r)

/-- The exponent after a letter, and what follows it; without digits there is none. -/
def exponentAfter (letter : Char) (t : Text) : Int × Text :=
  match t with
  | c :: r =>
    if c.toLower = letter then
      let (negative, digits) := match r with
        | '-' :: d => (true, d)
        | '+' :: d => (false, d)
        | d => (false, d)
      let n := digits.takeWhile Char.isDigit
      if n.isEmpty then (0, t)
      else
        let value : Int := min (Text.decimalValue n) 100000
        (if negative then -value else value, digits.drop n.length)
    else (0, t)
  | [] => (0, [])

/-- The unsigned number at the front of a text, whether it is out of range, and what follows it. -/
def readMagnitude? (negative : Bool) (t : Text) : Option (Double × Bool × Text) :=
  let lower := t.map Char.toLower
  let hex := match lower with
    | '0' :: 'x' :: r =>
      let (digits, _, _) := pointed (fun c => (Text.hexDigitValue? c).isSome) r
      !digits.isEmpty
    | _ => false
  if ("infinity" : Text).isPrefixOf lower then some (infinite negative, false, t.drop 8)
  else if ("inf" : Text).isPrefixOf lower then some (infinite negative, false, t.drop 3)
  else if ("nan" : Text).isPrefixOf lower then some (undefined negative, false, t.drop 3)
  else if hex then
    let (digits, places, rest) := pointed (fun c => (Text.hexDigitValue? c).isSome) (t.drop 2)
    let (power, rest) := exponentAfter 'p' rest
    let value := digits.foldl (fun n c => n * 16 + (Text.hexDigitValue? c).getD 0) 0
    let (a, b) := scaled 2 value (power - 4 * places)
    let (x, isOut) := ofFraction negative a b
    some (x, isOut, rest)
  else
    let (digits, places, rest) := pointed Char.isDigit t
    if digits.isEmpty then none
    else
      let (power, rest) := exponentAfter 'e' rest
      let (a, b) := scaled 10 (Text.decimalValue digits) (power - places)
      let (x, isOut) := ofFraction negative a b
      some (x, isOut, rest)

def read? (t : Text) : Option (Double × Bool × Text) :=
  match t.dropWhile fun c => c = ' ' || (9 ≤ c.toNat && c.toNat ≤ 13) with
  | '-' :: r => readMagnitude? true r
  | '+' :: r => readMagnitude? false r
  | r => readMagnitude? false r

/-! ## Writing -/

def isNegative : Double → Bool
  | finite negative _ _ => negative
  | infinite negative => negative
  | undefined negative => negative

/-- The digits of a natural number with a point before the last `places` of them. -/
def withPoint (n places : Nat) (always : Bool) : Text :=
  let digits := Text.ofNatPadded (places + 1) n
  let whole := digits.take (digits.length - places)
  if places = 0 then (if always then whole ++ "." else whole)
  else whole ++ '.' :: digits.drop (digits.length - places)

def plainFraction (a b places : Nat) (always : Bool) : Text :=
  withPoint (roundDiv (a * Nat.pow 10 places) b) places always

def reaches (a b : Nat) (power : Int) : Bool :=
  let (n, d) := scaled 10 b power
  n ≤ a * d

def powerOf (a b : Nat) : Int :=
  let guess : Int := ((Nat.log2 a : Int) - Nat.log2 b) * 30103 / 100000 - 1
  if reaches a b (guess + 2) then guess + 2
  else if reaches a b (guess + 1) then guess + 1
  else if reaches a b guess then guess
  else guess - 1

/-- The first `places + 1` digits of a fraction, rounded, and the power of ten it begins with. -/
def significant (a b places : Nat) : Nat × Int :=
  if a = 0 then (0, 0)
  else
    let power := powerOf a b
    let (n, d) := scaled 10 b (power - places)
    let digits := roundDiv (a * d) n
    if digits = Nat.pow 10 (places + 1) then (Nat.pow 10 places, power + 1) else (digits, power)

/-- A power of ten after a letter, with at least two digits. -/
def powerText (power : Int) : Text :=
  (if power < 0 then ['e', '-'] else ['e', '+']) ++ Text.ofNatPadded 2 power.natAbs

def scientificFraction (a b places : Nat) (always : Bool) : Text :=
  let (digits, power) := significant a b places
  withPoint digits places always ++ powerText power

def withoutZeros (t : Text) : Text :=
  if t.elem '.' then
    let t := (t.reverse.dropWhile (· = '0')).reverse
    if t.getLast? = some '.' then t.dropLast else t
  else t

/-- A fraction in the shorter of two forms with so many digits. -/
def shorterFraction (a b digits : Nat) (always : Bool) : Text :=
  let digits := max 1 digits
  let (_, power) := significant a b (digits - 1)
  let trim (t : Text) : Text := if always then t else withoutZeros t
  if -4 ≤ power ∧ power < digits then
    trim (plainFraction a b (digits - 1 - power).toNat always)
  else
    let (n, power) := significant a b (digits - 1)
    trim (withPoint n (digits - 1) always) ++ powerText power

def binaryFraction (mantissa : Nat) (exponent : Int) : Text :=
  if mantissa = 0 then "0x0p+0"
  else
    let size := Nat.log2 mantissa
    let power := exponent + size
    let fraction := (mantissa - Nat.pow 2 size) * Nat.pow 2 (52 - size)
    let digits := List.leftpad 13 '0' (Nat.toDigits 16 fraction)
    let digits := (digits.reverse.dropWhile (· = '0')).reverse
    let sign : Char := if power < 0 then '-' else '+'
    let places := if digits.isEmpty then [] else '.' :: digits
    "0x1" ++ places ++ 'p' :: sign :: Text.ofNat power.natAbs

/-- The unsigned text of a number, given that of a finite one. -/
def textWith (ofFinite : Nat → Int → Text) : Double → Text
  | finite _ m e => ofFinite m e
  | infinite _ => "inf"
  | undefined _ => "nan"

/-- A number with so many places; `always` keeps the point. -/
def plain (places : Nat) (always : Bool) : Double → Text :=
  textWith fun m e => let (a, b) := scaled 2 m e; plainFraction a b places always

def scientific (places : Nat) (always : Bool) : Double → Text :=
  textWith fun m e => let (a, b) := scaled 2 m e; scientificFraction a b places always

def shorter (digits : Nat) (always : Bool) : Double → Text :=
  textWith fun m e => let (a, b) := scaled 2 m e; shorterFraction a b digits always

def binary : Double → Text :=
  textWith binaryFraction

end Double
end ContractAssist
