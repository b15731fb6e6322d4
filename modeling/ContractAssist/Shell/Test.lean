import ContractAssist.FileTree.Access
import ContractAssist.Shell.Arithmetic

/-!
# Test — conditions on texts, numbers and files

* `Test.evaluate` decides a condition that is given by words, or says why they are none.

A word that looks like an operator is one only where the words after it allow that.
-/

namespace ContractAssist
namespace Shell
namespace Test

def isLink (files : FileTree) (path : Text) : Bool :=
  match files.destination false path with
  | .ok (.found _ (.link _)) => true
  | _ => false

def isRunnable (files : FileTree) (path : Text) : Bool :=
  match files.stat? path with
  | .ok (_, .file _ runnable) => runnable
  | .ok (_, .directory) => true
  | .ok (_, .program _) => true
  | _ => false

def isDevice (files : FileTree) (path : Text) : Bool :=
  match files.stat? path with
  | .ok (_, .device _) => true
  | _ => false

def isFilled (files : FileTree) (path : Text) : Bool :=
  match files.stat? path with
  | .ok (_, .file content _) => !content.isEmpty
  | .ok (_, .directory) => true
  | .ok (_, .program _) => true
  | _ => false

def unary? (files : FileTree) (operator operand : Text) : Option Bool :=
  let path := toText operand
  match operator with
  | ['-', letter] =>
    match letter with
    | 'n' => some !operand.isEmpty
    | 'z' => some operand.isEmpty
    | 'f' => some (files.isFile path)
    | 'd' => some (files.isDirectory path)
    | 's' => some (isFilled files path)
    | 'x' => some (isRunnable files path)
    | 'c' => some (isDevice files path)
    | 'h' => some (isLink files path)
    | 'L' => some (isLink files path)
    | _ =>
      if ("erwOG" : Text).elem letter then some (files.pathExists path)
      else if ("bpugkSt" : Text).elem letter then some false
      else none
  | _ => none

def isSame (files : FileTree) (a b : Text) : Bool :=
  match files.stat? (toText a), files.stat? (toText b) with
  | .ok (place, _), .ok (place', _) => place = place'
  | _, _ => false

inductive Fault where
  | noNumber (word : Text)
  | noOperand (operator : Text)
  | unclosed
  | unended (word : Text)
  deriving DecidableEq, Repr, Inhabited

def Fault.message : Fault → Text
  | .noNumber word => "Illegal number: " ++ word
  | .noOperand operator => operator ++ ": argument expected"
  | .unclosed => "closing paren expected"
  | .unended word => if word.isEmpty then "unexpected operator" else word ++ ": unexpected operator"

/-- The number in base ten and 64 bits that a word stands for. -/
def number? (t : Text) : Option Int :=
  let value (t : Text) : Option Nat :=
    let digits := t.takeWhile Char.isDigit
    if !digits.isEmpty && (Arithmetic.skip (t.drop digits.length)).isEmpty then
      some (Text.decimalValue digits)
    else none
  let found : Option Int := match Arithmetic.skip t with
    | '-' :: r => (value r).map fun n => -(n : Int)
    | '+' :: r => (value r).map fun n => (n : Int)
    | r => (value r).map fun n => (n : Int)
  found.filter fun n => Arithmetic.clamp n = n

def compare (holds : Int → Int → Bool) (a b : Text) : Except Fault Bool :=
  match number? a, number? b with
  | some x, some y => .ok (holds x y)
  | some _, none => .error (.noNumber b)
  | none, _ => .error (.noNumber a)

def isBefore : Text → Text → Bool
  | _, [] => false
  | [], _ :: _ => true
  | a :: r, b :: s => if a = b then isBefore r s else a.toNat < b.toNat

def binary? (files : FileTree) (operator : Text) :
    Option (Text → Text → Except Fault Bool) :=
  match String.ofList operator with
  | "=" => some fun a b => .ok (a = b)
  | "!=" => some fun a b => .ok (a ≠ b)
  | "<" => some fun a b => .ok (isBefore a b)
  | ">" => some fun a b => .ok (isBefore b a)
  | "-eq" => some (compare fun x y => x = y)
  | "-ne" => some (compare fun x y => x ≠ y)
  | "-lt" => some (compare fun x y => x < y)
  | "-le" => some (compare fun x y => x ≤ y)
  | "-gt" => some (compare fun x y => y < x)
  | "-ge" => some (compare fun x y => y ≤ x)
  | "-ef" => some fun a b => .ok (isSame files a b)
  | "-nt" => some fun _ _ => .ok false
  | "-ot" => some fun _ _ => .ok false
  | _ => none

def isBinary (word : Text) : Bool :=
  (["=", "!=", "<", ">", "-eq", "-ne", "-lt", "-le", "-gt", "-ge", "-ef", "-nt", "-ot"] :
    List String).any fun name => word = name.toList

inductive Role where
  | missing
  | operand
  | unary
  | binary
  | negation
  | both
  | either
  | opening
  | closing
  deriving DecidableEq, Repr, Inhabited

def isUnary (word : Text) : Bool :=
  match word with
  | ['-', letter] => ("nzefdrwsxcbpugkSthLOG" : Text).elem letter
  | _ => false

def role : List Text → Role
  | [] => .missing
  | ['!'] :: _ => .negation
  | ['-', 'a'] :: _ => .both
  | ['-', 'o'] :: _ => .either
  | [['(']] => .operand
  | ['('] :: _ => .opening
  | [')'] :: _ => .closing
  | word :: r =>
    if isBinary word then .binary
    else if isUnary word then
      match r with
      | [] => .operand
      | [_] => .unary
      | next :: _ => if isBinary next then .operand else .unary
    else .operand

mutual

/-- A condition whose first word has a given role; the answer begins with its last word. -/
def condition (files : FileTree) : Nat → Role → List Text → Except Fault (Bool × List Text)
  | 0, _, words => .ok (false, words)
  | fuel + 1, first, words => do
    let (a, last) ← conjunction files fuel first words
    match role last.tail with
    | .either =>
      let others := last.tail.tail
      let (b, last) ← condition files fuel (role others) others
      return (a || b, last)
    | _ => return (a, last)

def conjunction (files : FileTree) : Nat → Role → List Text → Except Fault (Bool × List Text)
  | 0, _, words => .ok (false, words)
  | fuel + 1, first, words => do
    let (a, last) ← negatable files fuel first words
    match role last.tail with
    | .both =>
      let others := last.tail.tail
      let (b, last) ← conjunction files fuel (role others) others
      return (a && b, last)
    | _ => return (a, last)

def negatable (files : FileTree) : Nat → Role → List Text → Except Fault (Bool × List Text)
  | 0, _, words => .ok (false, words)
  | fuel + 1, .negation, words =>
    let others := if words.tail.isEmpty then words else words.tail
    (negatable files fuel (role words.tail) others).map fun x => (!x.1, x.2)
  | fuel + 1, first, words => elementary files fuel first words

def elementary (files : FileTree) : Nat → Role → List Text → Except Fault (Bool × List Text)
  | 0, _, words => .ok (false, words)
  | _, .missing, words => .ok (false, words)
  | fuel + 1, .opening, words =>
    let inner := words.tail
    if role inner = .closing then .ok (false, inner)
    else do
      let (a, last) ← condition files fuel (role inner) inner
      if role last.tail = .closing then return (a, last.tail) else .error .unclosed
  | _ + 1, .unary, words =>
    match words with
    | operator :: operand :: r =>
      if operator = ['-', 't'] && (number? operand).isNone then .error (.noNumber operand)
      else .ok ((unary? files operator operand).getD false, operand :: r)
    | _ => .error (.noOperand (words.headD []))
  | _ + 1, _, words =>
    match words with
    | [] => .ok (false, [])
    | a :: r =>
      match role r, r with
      | .binary, operator :: b :: r =>
        match binary? files operator with
        | some decide => (decide a b).map fun x => (x, b :: r)
        | none => .error (.noOperand operator)
      | .binary, _ => .error (.noOperand (r.headD []))
      | _, _ => .ok (!a.isEmpty, a :: r)

end

def decideFrom (files : FileTree) (first : Role) (words : List Text) : Except Fault Bool := do
  match ← condition files (8 * words.length + 8) first words with
  | (_, word :: _ :: _) => .error (.unended word)
  | (x, _) => return x

/-- Decides a condition of up to three words, the second of which may be an operator. -/
def decideShort (files : FileTree) (words : List Text) : Except Fault Bool :=
  match words with
  | [_, operator, _] =>
    if isBinary operator then decideFrom files .operand words
    else decideFrom files (role words) words
  | _ => decideFrom files (role words) words

/-- Decides a condition; no word at all is false. -/
def evaluate (files : FileTree) (words : List Text) : Except Fault Bool :=
  match words with
  | [] => .ok false
  | [a, b, c] =>
    if isBinary b then decideFrom files .operand words
    else if a = ['('] && c = [')'] then decideFrom files (role [b]) [b]
    else if a = ['!'] then (decideFrom files (role [b, c]) [b, c]).map not
    else decideFrom files (role words) words
  | [a, b, c, d] =>
    if a = ['('] && d = [')'] then decideFrom files (role [b, c]) [b, c]
    else if a = ['!'] then (decideShort files [b, c, d]).map not
    else decideFrom files (role words) words
  | _ => decideFrom files (role words) words

end Test
end Shell
end ContractAssist
