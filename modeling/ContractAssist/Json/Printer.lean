import ContractAssist.Json.Value

/-!
# Printer — JSON values as indented text

* `Printer.quote` writes a string, with an escape only where JSON asks for one;
* `Value.pretty` writes a value with one element or member per line, two blanks deeper than what
  it belongs to.
-/

namespace ContractAssist
namespace Json
namespace Printer

/-! ## Strings -/

def hexDigit (n : Nat) : Char := Nat.digitChar n

def escape (c : Char) : Text :=
  if c = '"' then ['\\', '"']
  else if c = '\\' then ['\\', '\\']
  else if c = '\x08' then ['\\', 'b']
  else if c = '\x0c' then ['\\', 'f']
  else if c = '\n' then ['\\', 'n']
  else if c = '\r' then ['\\', 'r']
  else if c = '\t' then ['\\', 't']
  else if c.toNat < 0x20 then
    ['\\', 'u', '0', '0', hexDigit (c.toNat / 16), hexDigit (c.toNat % 16)]
  else [c]

def quote (t : Text) : Text :=
  '"' :: t.flatMap escape ++ ['"']

def numeral (n : Numeral) : Text :=
  (if n.negative then ['-'] else []) ++ n.whole
    ++ (n.fraction.elim [] fun digits => '.' :: digits)
    ++ n.exponent.elim [] fun e => 'e' :: ((if e.1 then ['-'] else []) ++ e.2)

/-! ## Layout -/

def newLine (depth : Nat) : Text :=
  '\n' :: List.replicate (2 * depth) ' '

mutual

def value (depth : Nat) : Value → Text
  | .null => "null"
  | .bool true => "true"
  | .bool false => "false"
  | .number n => numeral n
  | .string t => quote t
  | .array [] => "[]"
  | .array (v :: r) =>
    '[' :: newLine (depth + 1) ++ value (depth + 1) v ++ elements (depth + 1) r
      ++ newLine depth ++ [']']
  | .object [] => "\x7b\x7d"
  | .object ((k, v) :: r) =>
    '\x7b' :: newLine (depth + 1) ++ quote k ++ ": " ++ value (depth + 1) v
      ++ members (depth + 1) r ++ newLine depth ++ ['\x7d']

/-- Further elements of an array. -/
def elements (depth : Nat) : List Value → Text
  | [] => []
  | v :: r => ',' :: newLine depth ++ value depth v ++ elements depth r

def members (depth : Nat) : List (Text × Value) → Text
  | [] => []
  | (k, v) :: r => ',' :: newLine depth ++ quote k ++ ": " ++ value depth v ++ members depth r

end

end Printer

def Numeral.ofNat (n : Nat) : Numeral :=
  ⟨false, Text.ofNat n, none, none⟩

def Value.ofNat (n : Nat) : Value :=
  .number (.ofNat n)

def Value.pretty (v : Value) : Text :=
  Printer.value 0 v

end Json
end ContractAssist
