import ContractAssist.Shell.Syntax

/-!
# Arithmetic — expressions over whole numbers

* `Arithmetic.evaluate` gives the value of an expression and the assignments that it makes, or the
  fault that it has no value for.

Numbers have 64 bits. Operators bind as in most languages; what a connective or a choice does not
need is not evaluated.
-/

namespace ContractAssist
namespace Shell
namespace Arithmetic

/-! ## Numbers -/

def isSpace (c : Char) : Bool :=
  c = ' ' || (9 ≤ c.toNat && c.toNat ≤ 13)

def skip (t : Text) : Text :=
  t.dropWhile isSpace

def digitsValue (base : Nat) (digits : Text) : Nat :=
  digits.foldl (fun n c => n * base + (Text.hexDigitValue? c).getD 0) 0

/-- The number at the front, in base ten, eight or sixteen, and what follows it. -/
def natural? (t : Text) : Option (Nat × Text) :=
  let digits (base : Nat) (isDigit : Char → Bool) (t : Text) : Nat × Text :=
    let digits := t.takeWhile isDigit
    (digitsValue base digits, t.drop digits.length)
  let isHex (c : Char) : Bool := (Text.hexDigitValue? c).isSome
  match t with
  | '0' :: x :: c :: r =>
    if (x = 'x' || x = 'X') && isHex c then some (digits 16 isHex (c :: r))
    else some (digits 8 (fun c => '0' ≤ c && c ≤ '7') t)
  | c :: _ =>
    if c = '0' then some (digits 8 (fun c => '0' ≤ c && c ≤ '7') t)
    else if c.isDigit then some (digits 10 Char.isDigit t)
    else none
  | [] => none

/-- The number at the front, possibly after blanks and a sign, and what follows it. -/
def integer? (t : Text) : Option (Int × Text) :=
  match skip t with
  | '-' :: r => (natural? r).map fun x => (-(x.1 : Int), x.2)
  | '+' :: r => (natural? r).map fun x => ((x.1 : Int), x.2)
  | r => (natural? r).map fun x => ((x.1 : Int), x.2)

def greatest : Int := 9223372036854775807

def least : Int := -9223372036854775808

/-- The number of 64 bits next to a number. -/
def clamp (n : Int) : Int :=
  max least (min greatest n)

/-- The number that a whole text stands for; blanks stand for zero. -/
def whole? (t : Text) : Option Int :=
  match integer? t with
  | some (n, rest) => if (skip rest).isEmpty && clamp n = n then some n else none
  | none => if (skip t).isEmpty then some 0 else none

def truth (b : Bool) : Int :=
  if b then 1 else 0

def ofInt (n : Int) : Text :=
  if n < 0 then '-' :: Text.ofNat n.natAbs else Text.ofNat n.natAbs

/-! ## Faults -/

inductive Fault where
  -- the value of a name is no number
  | noNumber (value : Text)
  | zeroDivisor
  | noOperand
  | unclosed
  -- the second way of a choice is missing
  | noAlternative
  -- the expression has ended, and the text goes on
  | unended
  deriving DecidableEq, Repr, Inhabited

def Fault.message (expression : Text) : Fault → Text
  | .noNumber value => "Illegal number: " ++ value
  | .zeroDivisor => "arithmetic expression: division by zero: \"" ++ expression ++ "\""
  | .noOperand => "arithmetic expression: expecting primary: \"" ++ expression ++ "\""
  | .unclosed => "arithmetic expression: expecting ')': \"" ++ expression ++ "\""
  | .noAlternative => "arithmetic expression: expecting ':': \"" ++ expression ++ "\""
  | .unended => "arithmetic expression: expecting EOF: \"" ++ expression ++ "\""

/-! ## Units -/

inductive Unit where
  | number (n : Int)
  | name (t : Text)
  | mark (t : Text)
  | stray
  | over
  deriving DecidableEq, Repr, Inhabited

/-- The operators and parentheses, the longest first. -/
def marks : List Text :=
  (["<<=", ">>=", "<<", ">>", "<=", ">=", "==", "!=", "||", "&&", "*=", "/=", "%=", "+=", "-=",
    "&=", "^=", "|=", "<", ">", "=", "!", "|", "&", "*", "/", "%", "+", "-", "^", "~", "(", ")",
    "?", ":"] : List String).map String.toList

def unit (t : Text) : Unit × Text :=
  match t.dropWhile fun c => c = ' ' || c = '\t' || c = '\n' with
  | [] => (.over, [])
  | c :: r =>
    match natural? (c :: r) with
    | some (n, rest) => (.number (clamp n), rest)
    | none =>
      if isNameStart c then
        let name := (c :: r).takeWhile isNamePart
        (.name name, (c :: r).drop name.length)
      else
        match marks.find? fun m => m.isPrefixOf (c :: r) with
        | some m => (.mark m, (c :: r).drop m.length)
        | none => (.stray, c :: r)

/-- The units of an expression; `fuel` bounds their number. -/
def units : Nat → Text → List Unit
  | 0, _ => []
  | fuel + 1, t =>
    match unit t with
    | (.over, _) => []
    | (.stray, _) => [.stray]
    | (u, rest) => u :: units fuel rest

/-! ## Operators -/

/-- How tightly an operator on two numbers binds: the lower, the tighter. -/
def level? (operator : Text) : Option Nat :=
  match String.ofList operator with
  | "*" => some 0
  | "/" => some 0
  | "%" => some 0
  | "+" => some 1
  | "-" => some 1
  | "<<" => some 2
  | ">>" => some 2
  | "<" => some 3
  | "<=" => some 3
  | ">" => some 3
  | ">=" => some 3
  | "==" => some 4
  | "!=" => some 4
  | "&" => some 5
  | "^" => some 6
  | "|" => some 7
  | _ => none

def loosest : Nat := 8

/-- The value of an operator on two numbers; a division by zero has none. -/
def result? (operator : Text) (a b : Int) : Option Int :=
  match String.ofList operator with
  | "==" => some (truth (a = b))
  | "!=" => some (truth (a ≠ b))
  | "<=" => some (truth (a ≤ b))
  | ">=" => some (truth (b ≤ a))
  | "<" => some (truth (a < b))
  | ">" => some (truth (b < a))
  | "+" => some (Int64.ofInt (a + b)).toInt
  | "-" => some (Int64.ofInt (a - b)).toInt
  | "*" => some (Int64.ofInt (a * b)).toInt
  | "/" => if b = 0 then none else some (Int64.ofInt (Int.tdiv a b)).toInt
  | "%" => if b = 0 then none else some (Int.tmod a b)
  | "<<" => some (Int64.ofInt a <<< Int64.ofInt b).toInt
  | ">>" => some (Int64.ofInt a >>> Int64.ofInt b).toInt
  | "&" => some (Int64.ofInt a &&& Int64.ofInt b).toInt
  | "|" => some (Int64.ofInt a ||| Int64.ofInt b).toInt
  | "^" => some (Int64.ofInt a ^^^ Int64.ofInt b).toInt
  | _ => none

/-- The operator that an assignment applies first; plain assignments apply none. -/
def assigned? (mark : Text) : Option (Option Text) :=
  let operator := mark.dropLast
  if mark = ['='] then some none
  else if mark.getLast? = some '=' && (level? operator).isSome && mark ≠ ("<=" : Text)
      && mark ≠ (">=" : Text) && mark ≠ ("==" : Text) then some (some operator)
  else none

/-! ## Evaluation -/

/-- An expression that is being evaluated. -/
structure Progress where
  left : List Unit
  -- the assignments that were made, the latest first
  made : List (Text × Int)
  deriving Repr, Inhabited

abbrev Step (α : Type) := StateT Progress (Except Fault) α

namespace Step

def peek : Step Unit := do
  return (← get).left.headD .over

def advance : Step PUnit :=
  modify fun p => { p with left := p.left.tail }

/-- Goes on after the next unit if it is this mark. -/
def skipMark (mark : Text) : Step Bool := do
  if (← peek) = .mark mark then
    advance
    return true
  else return false

end Step

/-- The number that a name stands for; `value` gives the texts of names. -/
def lookUp (value : Text → Text) (name : Text) : Step Int := do
  match (← get).made.find? fun a => a.1 = name with
  | some (_, n) => return n
  | none =>
    match whole? (value name) with
    | some n => return n
    | none => throw (.noNumber (value name))

def apply (operator : Text) (a b : Int) : Step Int :=
  match result? operator a b with
  | some n => return n
  | none => throw .zeroDivisor

mutual

/-- An assignment, or a choice; with `idle` set, nothing is looked up or assigned. -/
def assignment (value : Text → Text) : Nat → Bool → Step Int
  | 0, _ => throw .noOperand
  | fuel + 1, idle => do
    match (← get).left with
    | .name name :: .mark mark :: rest =>
      match assigned? mark with
      | none => choice value fuel idle
      | some operator => do
        modify fun p => { p with left := rest }
        let n ← assignment value fuel idle
        if idle then return n
        let n ← match operator with
          | none => pure n
          | some operator => do apply operator (← lookUp value name) n
        modify fun p => { p with made := (name, n) :: p.made }
        return n
    | _ => choice value fuel idle

def choice (value : Text → Text) : Nat → Bool → Step Int
  | 0, _ => throw .noOperand
  | fuel + 1, idle => do
    let a ← either value fuel idle
    if ← Step.skipMark ['?'] then
      let b ← assignment value fuel (idle || a = 0)
      if ← Step.skipMark [':'] then
        let c ← choice value fuel (idle || a ≠ 0)
        return if a ≠ 0 then b else c
      else throw .noAlternative
    else return a

def either (value : Text → Text) : Nat → Bool → Step Int
  | 0, _ => throw .noOperand
  | fuel + 1, idle => do
    let a ← both value fuel idle
    if ← Step.skipMark ['|', '|'] then
      let b ← either value fuel (idle || a ≠ 0)
      return truth (a ≠ 0 || b ≠ 0)
    else return a

def both (value : Text → Text) : Nat → Bool → Step Int
  | 0, _ => throw .noOperand
  | fuel + 1, idle => do
    let a ← chain value fuel loosest idle (← operand value fuel idle)
    if ← Step.skipMark ['&', '&'] then
      let b ← both value fuel (idle || a = 0)
      return truth (a ≠ 0 && b ≠ 0)
    else return a

/-- A number, and the operators after it that bind more tightly than a level. -/
def chain (value : Text → Text) : Nat → Nat → Bool → Int → Step Int
  | 0, _, _, _ => throw .noOperand
  | fuel + 1, limit, idle, a => do
    match ← Step.peek with
    | .mark operator =>
      match level? operator with
      | none => return a
      | some level =>
        if limit ≤ level then return a
        else
          Step.advance
          let b ← operand value fuel idle
          let b ← chain value fuel level idle b
          let n ← if idle then pure b else apply operator a b
          chain value fuel limit idle n
    | _ => return a

/-- A number, a name, or an expression in parentheses, possibly with signs. -/
def operand (value : Text → Text) : Nat → Bool → Step Int
  | 0, _ => throw .noOperand
  | fuel + 1, idle => do
    match ← Step.peek with
    | .number n => do
      Step.advance
      return n
    | .name name => do
      Step.advance
      if idle then return 0 else lookUp value name
    | .mark ['+'] => do
      Step.advance
      operand value fuel idle
    | .mark ['-'] => do
      Step.advance
      return (Int64.ofInt (-(← operand value fuel idle))).toInt
    | .mark ['!'] => do
      Step.advance
      return truth ((← operand value fuel idle) = 0)
    | .mark ['~'] => do
      Step.advance
      return -(← operand value fuel idle) - 1
    | .mark ['('] => do
      Step.advance
      let n ← assignment value fuel idle
      if ← Step.skipMark [')'] then return n else throw .unclosed
    | _ => throw .noOperand

end

/-- The value of an expression, and the assignments that it makes, in order. -/
def evaluate (value : Text → Text) (t : Text) : Except Fault (Int × List (Text × Int)) := do
  let all := units (t.length + 1) t
  let (n, after) ← (assignment value (16 * all.length + 32) false).run ⟨all, []⟩
  if after.left.isEmpty then return (n, after.made.reverse) else throw .unended

end Arithmetic
end Shell
end ContractAssist
