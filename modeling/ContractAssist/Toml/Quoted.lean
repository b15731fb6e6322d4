import ContractAssist.Text.Basic

/-!
# Quoted — TOML strings

There are four kinds of strings: with escapes or without, on one line or on several. Each reader
starts after the opening quotation marks and gives the text and what follows the closing ones.

* `Quoted.basic?` and `Quoted.literal?` read strings on one line;
* `Quoted.basicLines?` and `Quoted.literalLines?` read strings on several lines.
-/

namespace ContractAssist
namespace Toml
namespace Quoted

/-! ## Characters -/

/-- May stand in a comment, and in a string if it is no quotation mark or backslash. -/
def isPlain (c : Char) : Bool :=
  c == '\t' || (0x20 ≤ c.toNat && c.toNat ≠ 0x7F)

def shortEscape? (c : Char) : Option Char :=
  if c = 'b' then some '\x08'
  else if c = 't' then some '\t'
  else if c = 'n' then some '\n'
  else if c = 'f' then some '\x0c'
  else if c = 'r' then some '\r'
  else if c = '"' then some '"'
  else if c = '\\' then some '\\'
  else none

def codePoint? (digits : Text) : Option Char := do
  let values ← digits.mapM Text.hexDigitValue?
  let n := values.foldl (fun n d => n * 16 + d) 0
  if n.isValidChar then some (Char.ofNat n) else none

def escape? : Text → Option (Char × Text)
  | [] => none
  | 'u' :: r => if r.length < 4 then none else (codePoint? (r.take 4)).map fun c => (c, r.drop 4)
  | 'U' :: r => if r.length < 8 then none else (codePoint? (r.take 8)).map fun c => (c, r.drop 8)
  | c :: r => (shortEscape? c).map fun d => (d, r)

def add (c : Char) (read : Text × Text) : Text × Text := (c :: read.1, read.2)

/-! ## One line -/

/-- Reads a string with escapes; `fuel` bounds its length. -/
def basic? : Nat → Text → Option (Text × Text)
  | 0, _ => none
  | _, [] => none
  | fuel + 1, c :: r =>
    if c = '"' then some ([], r)
    else if c = '\\' then (escape? r).bind fun (d, r') => (basic? fuel r').map (add d)
    else if isPlain c then (basic? fuel r).map (add c)
    else none

def literal? : Text → Option (Text × Text)
  | [] => none
  | c :: r =>
    if c = '\'' then some ([], r)
    else if isPlain c then (literal? r).map (add c)
    else none

/-! ## Several lines -/

def dropBreak : Text → Text
  | '\n' :: r => r
  | '\r' :: '\n' :: r => r
  | t => t

/--
Three marks close a string on several lines; one or two more in front of them belong to it. Gives
the rest after the closing marks and the marks that belong to the string.
-/
def closing? (mark : Char) (t : Text) : Option (Text × Text) :=
  let marks := t.takeWhile (· == mark)
  if marks.length < 3 then none
  else
    let count := min marks.length 5
    some (marks.take (count - 3), t.drop count)

def dropBlanks (t : Text) : Text :=
  t.dropWhile fun c => c == ' ' || c == '\t'

def dropBreaks : Text → Text
  | ' ' :: r => dropBreaks r
  | '\t' :: r => dropBreaks r
  | '\n' :: r => dropBreaks r
  | '\r' :: '\n' :: r => dropBreaks r
  | t => t

/-- Reads a backslash at the end of a line: the rest after all blanks and breaks. -/
def lineEnd? (t : Text) : Option Text :=
  match dropBlanks t with
  | '\n' :: r => some (dropBreaks r)
  | '\r' :: '\n' :: r => some (dropBreaks r)
  | _ => none

def basicLines? : Nat → Text → Option (Text × Text)
  | 0, _ => none
  | _, [] => none
  | fuel + 1, c :: r =>
    match if c = '"' then closing? '"' (c :: r) else none with
    | some closed => some closed
    | none =>
      if c = '\\' then
        match lineEnd? r with
        | some r' => basicLines? fuel r'
        | none => (escape? r).bind fun (d, r') => (basicLines? fuel r').map (add d)
      else
        match c, r with
        | '\r', '\n' :: r' => (basicLines? fuel r').map (add '\n')
        | c, r => if isPlain c || c == '\n' then (basicLines? fuel r).map (add c) else none

def literalLines? : Nat → Text → Option (Text × Text)
  | 0, _ => none
  | _, [] => none
  | fuel + 1, c :: r =>
    match if c = '\'' then closing? '\'' (c :: r) else none with
    | some closed => some closed
    | none =>
      match c, r with
      | '\r', '\n' :: r' => (literalLines? fuel r').map (add '\n')
      | c, r => if isPlain c || c == '\n' then (literalLines? fuel r).map (add c) else none

end Quoted
end Toml
end ContractAssist
