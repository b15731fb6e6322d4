import ContractAssist.Json.Numeral

/-!
# Token — the words of a JSON text

A scanner reads a JSON text one character at a time and cuts it into tokens. It is strict: literals
in lower case only, no leading zeros, no raw control characters in strings, and surrogates in
escapes only in pairs.

* `Token` are the words;
* `Scanner` is what is remembered between two characters, and `Scanner.step` reads one;
* `Token.scan?` gives the tokens of a whole text.
-/

namespace ContractAssist
namespace Json

inductive Token where
  | openArray
  | closeArray
  | openObject
  | closeObject
  | comma
  | colon
  | null
  | bool (value : Bool)
  | number (numeral : Numeral)
  | string (value : Text)
  deriving DecidableEq, Repr, Inhabited

inductive NumeralPlace where
  | minus
  | zero
  | whole
  | point
  | fraction
  | mark
  | sign
  | exponent
  deriving DecidableEq, Repr, Inhabited

/-- What a scanner remembers between two characters. -/
inductive Scanner where
  | between
  -- inside a literal: the letters to come, and the token that it makes
  | literal (rest : Text) (token : Token)
  -- inside a number: what was read, and where the scanner stands
  | number (read : Numeral) (place : NumeralPlace)
  -- inside a string, whose characters so far are kept last first
  | string (read : Text)
  | escape (read : Text)
  -- inside a string, in an escape of four digits: the first half of a surrogate pair if one was
  -- read, how many digits are to come, and the value of those read
  | unit (read : Text) (high : Option Nat) (left : Nat) (value : Nat)
  -- inside a string, after the first half of a surrogate pair
  | pair (read : Text) (high : Nat)
  -- inside a string, after the first half of a surrogate pair and a backslash
  | pairEscape (read : Text) (high : Nat)
  deriving DecidableEq, Repr, Inhabited

/-! ## Characters -/

def isSpace (c : Char) : Bool :=
  c == ' ' || c == '\t' || c == '\n' || c == '\r'

def shortEscape? (c : Char) : Option Char :=
  if c = '"' then some '"'
  else if c = '\\' then some '\\'
  else if c = '/' then some '/'
  else if c = 'b' then some '\x08'
  else if c = 'f' then some '\x0c'
  else if c = 'n' then some '\n'
  else if c = 'r' then some '\r'
  else if c = 't' then some '\t'
  else none

def isHighSurrogate (n : Nat) : Bool := 0xD800 ≤ n && n ≤ 0xDBFF

def isLowSurrogate (n : Nat) : Bool := 0xDC00 ≤ n && n ≤ 0xDFFF

def pairChar (high low : Nat) : Char :=
  Char.ofNat (0x10000 + (high - 0xD800) * 0x400 + (low - 0xDC00))

/-! ## Numbers -/

namespace Numeral

/-- The numeral before its first digit. -/
def opening (negative : Bool) : Numeral := ⟨negative, [], none, none⟩

def addWhole (n : Numeral) (c : Char) : Numeral := { n with whole := n.whole ++ [c] }

def addFraction (n : Numeral) (c : Char) : Numeral :=
  { n with fraction := some (n.fraction.getD [] ++ [c]) }

def addExponent (n : Numeral) (c : Char) : Numeral :=
  { n with exponent := n.exponent.map fun e => (e.1, e.2 ++ [c]) }

/-- The numeral may end here. -/
def complete : NumeralPlace → Bool
  | .zero | .whole | .fraction | .exponent => true
  | _ => false

/-- Reads a point or the mark of an exponent. -/
def leaveDigits (n : Numeral) (pointAllowed : Bool) (c : Char) :
    Option (Numeral × NumeralPlace) :=
  if c = '.' ∧ pointAllowed then some (n, .point)
  else if c = 'e' ∨ c = 'E' then some ({ n with exponent := some (false, []) }, .mark)
  else none

/-- Reads one more character of a number, if it belongs to it. -/
def extend? (n : Numeral) (place : NumeralPlace) (c : Char) : Option (Numeral × NumeralPlace) :=
  match place with
  | .minus =>
    if c = '0' then some (n.addWhole c, .zero)
    else if c.isDigit then some (n.addWhole c, .whole)
    else none
  | .zero => n.leaveDigits true c
  | .whole => if c.isDigit then some (n.addWhole c, .whole) else n.leaveDigits true c
  | .point => if c.isDigit then some (n.addFraction c, .fraction) else none
  | .fraction => if c.isDigit then some (n.addFraction c, .fraction) else n.leaveDigits false c
  | .mark =>
    if c = '+' then some (n, .sign)
    else if c = '-' then some ({ n with exponent := some (true, []) }, .sign)
    else if c.isDigit then some (n.addExponent c, .exponent)
    else none
  | .sign => if c.isDigit then some (n.addExponent c, .exponent) else none
  | .exponent => if c.isDigit then some (n.addExponent c, .exponent) else none

end Numeral

/-! ## Steps -/

namespace Scanner

def start? (c : Char) : Option (List Token × Scanner) :=
  if isSpace c then some ([], between)
  else if c = '[' then some ([.openArray], between)
  else if c = ']' then some ([.closeArray], between)
  else if c = '\x7b' then some ([.openObject], between)
  else if c = '\x7d' then some ([.closeObject], between)
  else if c = ',' then some ([.comma], between)
  else if c = ':' then some ([.colon], between)
  else if c = '"' then some ([], string [])
  else if c = 'n' then some ([], literal ['u', 'l', 'l'] .null)
  else if c = 't' then some ([], literal ['r', 'u', 'e'] (.bool true))
  else if c = 'f' then some ([], literal ['a', 'l', 's', 'e'] (.bool false))
  else if c = '-' then some ([], number (.opening true) .minus)
  else if c = '0' then some ([], number ((Numeral.opening false).addWhole c) .zero)
  else if c.isDigit then some ([], number ((Numeral.opening false).addWhole c) .whole)
  else none

def numberToken? (n : Numeral) (place : NumeralPlace) : Option Token :=
  if Numeral.complete place ∧ !n.tooLarge then some (.number n) else none

/-- A code unit was read; halves of surrogate pairs must stand together. -/
def endUnit? (read : Text) (high : Option Nat) (value : Nat) : Option Scanner :=
  match high with
  | some h => if isLowSurrogate value then some (string (pairChar h value :: read)) else none
  | none =>
    if isHighSurrogate value then some (pair read value)
    else if isLowSurrogate value then none
    else some (string (Char.ofNat value :: read))

/-- Reads one character: the tokens that end with it or before it, and what is remembered. -/
def step? (s : Scanner) (c : Char) : Option (List Token × Scanner) :=
  match s with
  | between => start? c
  | literal [] _ => none
  | literal [d] token => if c = d then some ([token], between) else none
  | literal (d :: rest) token => if c = d then some ([], literal rest token) else none
  | number n place =>
    match n.extend? place c with
    | some (n', place') => some ([], number n' place')
    | none =>
      match numberToken? n place, start? c with
      | some token, some (tokens, next) => some (token :: tokens, next)
      | _, _ => none
  | string read =>
    if c = '"' then some ([.string read.reverse], between)
    else if c = '\\' then some ([], escape read)
    else if c.toNat < 0x20 then none
    else some ([], string (c :: read))
  | escape read =>
    if c = 'u' then some ([], unit read none 4 0)
    else (shortEscape? c).map fun d => ([], string (d :: read))
  | unit read high left value =>
    match Text.hexDigitValue? c with
    | none => none
    | some d =>
      if left ≤ 1 then (endUnit? read high (value * 16 + d)).map fun next => ([], next)
      else some ([], unit read high (left - 1) (value * 16 + d))
  | pair read high => if c = '\\' then some ([], pairEscape read high) else none
  | pairEscape read high => if c = 'u' then some ([], unit read (some high) 4 0) else none

def finish? : Scanner → Option (List Token)
  | between => some []
  | number n place => (numberToken? n place).map fun token => [token]
  | _ => none

def scan? (s : Scanner) : Text → Option (List Token)
  | [] => s.finish?
  | c :: r =>
    match s.step? c with
    | none => none
    | some ([], next) => next.scan? r
    | some (tokens, next) => (next.scan? r).map fun later => tokens ++ later

end Scanner

def Token.scan? (t : Text) : Option (List Token) :=
  Scanner.between.scan? t

end Json
end ContractAssist
