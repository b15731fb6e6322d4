import ContractAssist.Decimal
import ContractAssist.Toml.Value

/-!
# Scalar — TOML numbers, truth values, dates and times

All of these are written without quotation marks and blanks, but for the one blank that may stand
between a date and a time. So the longest word of the right characters is taken, and it is one of
these or nothing.

* `Scalar.ofWord?` reads such a word;
* `Scalar.isDate` and `Scalar.isTime` tell dates and times.
-/

namespace ContractAssist
namespace Toml
namespace Scalar

def isWordChar (c : Char) : Bool :=
  c.isAlphanum || c == '+' || c == '-' || c == '_' || c == '.' || c == ':'

/-! ## Digits -/

/-- Digits with single underscores between them; the digits alone, if there are any. -/
def digits? (isDigit : Char → Bool) : Text → Option Text
  | [] => none
  | [c] => if isDigit c then some [c] else none
  | c :: '_' :: r => if isDigit c then (digits? isDigit r).map (c :: ·) else none
  | c :: d :: r => if isDigit c then (digits? isDigit (d :: r)).map (c :: ·) else none

def splitSign : Text → Bool × Text
  | '-' :: r => (true, r)
  | '+' :: r => (false, r)
  | t => (false, t)

def baseValue (base : Nat) (digits : Text) : Nat :=
  digits.foldl (fun n c => n * base + (Text.hexDigitValue? c).getD 0) 0

/-! ## Whole numbers -/

def fitted? (n : Int) : Option Int :=
  if -(Nat.pow 2 63 : Int) ≤ n ∧ n < Nat.pow 2 63 then some n else none

/-- A whole number in base ten: no zero in front of other digits. -/
def decimal? (w : Text) : Option Int := do
  let (negative, body) := splitSign w
  let digits ← digits? Char.isDigit body
  if digits.length > 1 ∧ digits.head? = some '0' then none
  fitted? (if negative then -(Text.decimalValue digits : Int) else Text.decimalValue digits)

/-- A whole number in another base, named by a letter after a zero. -/
def based? (base : Nat) (isDigit : Char → Bool) (body : Text) : Option Int := do
  fitted? (baseValue base (← digits? isDigit body))

def integer? : Text → Option Int
  | '0' :: 'x' :: r => based? 16 (fun c => (Text.hexDigitValue? c).isSome) r
  | '0' :: 'o' :: r => based? 8 (fun c => '0' ≤ c && c ≤ '7') r
  | '0' :: 'b' :: r => based? 2 (fun c => c == '0' || c == '1') r
  | w => decimal? w

/-! ## Fractional numbers -/

def isMark (c : Char) : Bool := c == 'e' || c == 'E'

/-- An exponent: its sign is minus, and its value. -/
def exponent? (t : Text) : Option (Bool × Nat) := do
  let (negative, body) := splitSign t
  return (negative, Text.decimalValue (← digits? Char.isDigit body))

/-- A fractional number: a point, an exponent, or both; or one of the special words. -/
def isFloat (w : Text) : Bool :=
  let (negative, body) := splitSign w
  if body = ("inf" : Text) ∨ body = ("nan" : Text) then true
  else
    let mantissa := body.takeWhile fun c => !isMark c
    let power := body.drop mantissa.length
    let whole := mantissa.takeWhile (· != '.')
    let fraction := mantissa.drop whole.length
    if power.isEmpty && fraction.isEmpty then false
    else
      (do
        let w ← digits? Char.isDigit whole
        let f ← if fraction.isEmpty then some [] else digits? Char.isDigit (fraction.drop 1)
        let e ← if power.isEmpty then some (false, 0) else exponent? (power.drop 1)
        if w.length > 1 ∧ w.head? = some '0' then none
        let up := if e.1 then 0 else e.2
        let down := f.length + (if e.1 then e.2 else 0)
        if !negative ∧ Decimal.tooLarge (w ++ f) up down then none
        return ()).isSome

/-! ## Dates and times -/

/-- A number of exactly so many digits at the front of a text, and the rest. -/
def fixed? (count : Nat) (t : Text) : Option (Nat × Text) :=
  let digits := t.take count
  if digits.length = count ∧ digits.all Char.isDigit then
    some (Text.decimalValue digits, t.drop count)
  else none

def expect? (c : Char) : Text → Option Text
  | d :: r => if c = d then some r else none
  | [] => none

def daysOf (year month : Nat) : Nat :=
  if month = 2 then
    (if year % 4 = 0 ∧ (year % 100 ≠ 0 ∨ year % 400 = 0) then 29 else 28)
  else if month = 4 ∨ month = 6 ∨ month = 9 ∨ month = 11 then 30
  else 31

def date? (t : Text) : Option Text := do
  let (year, r) ← fixed? 4 t
  let (month, r) ← fixed? 2 (← expect? '-' r)
  let (day, r) ← fixed? 2 (← expect? '-' r)
  if 1 ≤ month ∧ month ≤ 12 ∧ 1 ≤ day ∧ day ≤ daysOf year month then some r else none

def clock? (t : Text) : Option Text := do
  let (hour, r) ← fixed? 2 t
  let (minute, r) ← fixed? 2 (← expect? ':' r)
  if hour ≤ 23 ∧ minute ≤ 59 then some r else none

def fraction? : Text → Option Text
  | '.' :: r =>
    let digits := r.takeWhile Char.isDigit
    if digits.isEmpty then none else some (r.drop digits.length)
  | t => some t

def time? (t : Text) : Option Text := do
  let (second, r) ← fixed? 2 (← expect? ':' (← clock? t))
  if second ≤ 60 then fraction? r else none

/-- Is the text empty, or the distance of a time zone? -/
def isZone : Text → Bool
  | [] => true
  | ['Z'] | ['z'] => true
  | '+' :: r => clock? r = some []
  | '-' :: r => clock? r = some []
  | _ => false

def isDate (w : Text) : Bool :=
  date? w = some []

/-- Is the word a time, with or without a time zone? -/
def isTime (zoneAllowed : Bool) (w : Text) : Bool :=
  match time? w with
  | some r => if zoneAllowed then isZone r else r.isEmpty
  | none => false

/-- Is the word a date and a time with a letter between them? -/
def isDateTime (w : Text) : Bool :=
  match date? w with
  | some (c :: r) => (c == 'T' || c == 't') && isTime true r
  | _ => false

/-! ## Words -/

def ofWord? (w : Text) : Option Value :=
  if w = ("true" : Text) then some (.boolean true)
  else if w = ("false" : Text) then some (.boolean false)
  else if isDate w || isDateTime w || isTime false w then some .dateTime
  else if isFloat w then some .float
  else (integer? w).map .integer

end Scalar
end Toml
end ContractAssist
