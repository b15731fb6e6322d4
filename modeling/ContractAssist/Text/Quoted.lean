import ContractAssist.Text.Basic
import ContractAssist.Text.Printable

/-!
# Quoted — text between quotation marks on one line

The quoted form of a text starts and ends with a quotation mark and shows every character between
them in a way that can be read back: as itself, by a two-character escape, or by its code point.

* `Quoted.encode` writes the quoted form;
* `Quoted.decode?` reads a quoted form back.
-/

namespace ContractAssist
namespace Quoted

/-! ## Code points -/

def hexDigits (n : Nat) : Text :=
  Nat.toDigits 16 n

/-! ## Writing -/

def byCodePoint (c : Char) : Bool :=
  isGraphemeExtend c || isUnprintable c

def escape (c : Char) : Text :=
  if c = '\x00' then ['\\', '0']
  else if c = '\t' then ['\\', 't']
  else if c = '\r' then ['\\', 'r']
  else if c = '\n' then ['\\', 'n']
  else if c = '"' then ['\\', '"']
  else if c = '\\' then ['\\', '\\']
  else if byCodePoint c then ['\\', 'u', '\x7b'] ++ hexDigits c.toNat ++ ['\x7d']
  else [c]

def encode (t : Text) : Text :=
  '"' :: t.flatMap escape ++ ['"']

/-! ## Reading -/

inductive Place where
  | between
  | escape
  -- before the opening brace of a code point
  | openingBrace
  -- inside a code point, with the value of the digits so far
  | codePoint (value : Nat)
  deriving DecidableEq, Repr

def escaped? (c : Char) : Option Char :=
  if c = '0' then some '\x00'
  else if c = 't' then some '\t'
  else if c = 'r' then some '\r'
  else if c = 'n' then some '\n'
  else if c = '"' then some '"'
  else if c = '\\' then some '\\'
  else none

/-- Reads from a place to the closing quotation mark, which must be the last character. -/
def Place.read? : Place → Text → Option Text
  | _, [] => none
  | .between, c :: r =>
    if c = '"' then (if r.isEmpty then some [] else none)
    else if c = '\\' then read? .escape r
    else (read? .between r).map (c :: ·)
  | .escape, c :: r =>
    if c = 'u' then read? .openingBrace r
    else (escaped? c).bind fun d => (read? .between r).map (d :: ·)
  | .openingBrace, c :: r => if c = '\x7b' then read? (.codePoint 0) r else none
  | .codePoint n, c :: r =>
    if c = '\x7d' then
      (if n.isValidChar then (read? .between r).map (Char.ofNat n :: ·) else none)
    else (Text.hexDigitValue? c).bind fun d => read? (.codePoint (n * 16 + d)) r

def decode? : Text → Option Text
  | [] => none
  | c :: r => if c = '"' then Place.between.read? r else none

end Quoted
end ContractAssist
