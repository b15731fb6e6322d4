import ContractAssist.Shell.Opening
import ContractAssist.Shell.Options

/-!
# Programs — what small programs have in common

A program reads its input and writes its output through the channels of the shell that starts it.
Its complaints begin with the name that it goes by.

* `Program.withOptions` reads options, or says what is wrong with them;
* `Program.shown` and `Program.quoted` are texts as they stand in complaints;
* `Program.reading` does some work with the content of a file.
-/

namespace ContractAssist
namespace Shell

/-- A program: the name it goes by, its arguments, and what it does; the answer is its status. -/
abbrev Program := Text → List Text → Act Nat

namespace Program

/-! ## Texts in complaints -/

def isHidden (c : Char) : Bool :=
  c.toNat < 32 || 127 ≤ c.toNat

def escapeOf (c : Char) : Text :=
  match c with
  | '\x07' => "\\a"
  | '\x08' => "\\b"
  | '\t' => "\\t"
  | '\n' => "\\n"
  | '\x0b' => "\\v"
  | '\x0c' => "\\f"
  | '\r' => "\\r"
  | c => '\\' :: List.leftpad 3 '0' (Nat.toDigits 8 c.toNat)

def quoted (t : Text) : Text :=
  '\'' :: (t.flatMap fun c =>
    if c = '\'' || c = '\\' then ['\\', c] else if isHidden c then escapeOf c else [c]) ++ ['\'']

def shellMarks : Text := " !\"$&()*;<=>[\\^\x60|?'"

def needsQuotes (t : Text) : Bool :=
  match t with
  | [] => true
  | c :: r => (c :: r).any (fun c => shellMarks.elem c || isHidden c) || c = '#' || c = '~'
      || (r.isEmpty && (c = '\x7b' || c = '\x7d'))

/-- The inside of a text between single quotes; `escaping` if the last characters are escapes. -/
def shellBody : Bool → Text → Text
  | _, [] => []
  | escaping, c :: r =>
    if isHidden c then (if escaping then [] else "'$'") ++ escapeOf c ++ shellBody true r
    else
      (if escaping then ("''" : Text) else []) ++ (if c = '\'' then ("'\\''" : Text) else [c])
        ++ shellBody false r

def shellQuoted (t : Text) : Text :=
  if t.elem '\'' && !t.any fun c => isHidden c || ("!\"$&()*;<=>[\\^\x60|?" : Text).elem c then
    '"' :: t ++ ['"']
  else '\'' :: shellBody false t ++ ['\'']

/-- A text that is quoted only where a shell needs that. -/
def shown (t : Text) : Text :=
  if needsQuotes t then shellQuoted t else t

/-! ## Complaints -/

def complain (name text : Text) : Act Unit :=
  Act.tell (name ++ ": " ++ text ++ "\n")

def complainOf (name path : Text) (e : IoError) : Act Unit :=
  complain name (shown path ++ ": " ++ e.text)

def misuse (status : Nat) (name text : Text) : Act Nat := do
  if !text.isEmpty then complain name text
  Act.tell ("Try '" ++ name ++ " --help' for more information.\n")
  return status

def faultText : OptionFault → Text
  | .unknown letter => "invalid option -- '" ++ letter :: "'".toList
  | .unknownLong name => "unrecognized option '" ++ name ++ "'"
  | .noArgument letter => "option requires an argument -- '" ++ letter :: "'".toList
  | .noLongArgument name => "option '" ++ name ++ "' requires an argument"
  | .longArgument name => "option '" ++ name ++ "' doesn't allow an argument"

/-- Long options: each has a name and a letter, and says whether it takes an argument. -/
abbrev LongOptions := List (Text × Char × Bool)

def longOptions (plain taking : List (String × Char)) : LongOptions :=
  (plain.map fun o => (o.1.toList, o.2, false)) ++ taking.map fun o => (o.1.toList, o.2, true)

def withOptions (status : Nat) (allowed : Text) (long : LongOptions)
    (work : Text → Options → Act Nat) : Program := fun name arguments => do
  match Options.withLong allowed long true none arguments with
  | .ok o => work name o
  | .error fault => misuse status name (faultText fault)

def extra (name argument : Text) : Act Nat :=
  misuse 1 name ("extra operand " ++ quoted argument)

def missing (name : Text) : Act Nat :=
  misuse 1 name "missing operand"

def write (name text : Text) : Act Nat := do
  match ← Act.say 1 text with
  | none => return 0
  | some e => do
    complain name ("write error: " ++ e.text)
    return 1

/-! ## Input -/

def dash : Text := ['-']

def fileChannel : Nat := 3

/-- Does some work with the channel for the content of a file, or says why there is none. -/
def reading {α : Type} (path : Text) (work : Nat → Act α) : Act (Except IoError α) := do
  if path = dash then return .ok (← work 0)
  else
    match ← Act.openPath .read path with
    | .error e => return .error e
    | .ok channel => do
      Act.modify fun s => s.redirect fileChannel (some channel)
      let a ← work fileChannel
      Act.modify fun s => s.redirect fileChannel none
      Act.settleChannels
      return .ok a

def isDirectory (path : Text) : Act Bool := do
  return path ≠ dash && (← Act.tree).isDirectory (toText path)

def contentOf (path : Text) : Act (Except IoError Text) := do
  if ← isDirectory path then return .error .isADirectory
  else reading path Act.hearAll

/-- Files that are read; without any it is the input. -/
def inputs (paths : List Text) : List Text :=
  if paths.isEmpty then [dash] else paths

/-- Does some work for each argument; the answer is the greatest status. -/
def forAll {α : Type} (work : α → Act Nat) : List α → Act Nat
  | [] => pure 0
  | a :: r => do
    let first ← work a
    return max first (← forAll work r)

/-- Goes through the content of a channel by pieces; `fuel` bounds their number. -/
def pieces {α : Type} (number : Nat) (state : α) (step : α → Text → Act α) : Nat → Act α
  | 0 => pure state
  | fuel + 1 => do
    let piece ← Act.hear number Act.pieceSize
    if piece.isEmpty then return state
    else pieces number (← step state piece) step fuel

/-! ## Lines -/

/-- The lines of a text, each with its end; the last one may have none. -/
def linesOf (ending : Char) : Text → List Text
  | [] => []
  | c :: r =>
    if c = ending then [c] :: linesOf ending r
    else
      match linesOf ending r with
      | [] => [[c]]
      | line :: others => (c :: line) :: others

def bodyOf (ending : Char) (line : Text) : Text :=
  if line.getLast? = some ending then line.dropLast else line

def amount? (t : Text) : Option Nat :=
  let digits := t.takeWhile Char.isDigit
  if digits.isEmpty then none
  else
    let power (base : Nat) : Text → Option Nat
      | ['k'] => some base
      | ['K'] => some base
      | ['m'] => some (Nat.pow base 2)
      | ['M'] => some (Nat.pow base 2)
      | ['G'] => some (Nat.pow base 3)
      | ['T'] => some (Nat.pow base 4)
      | _ => none
    let unit? := match t.drop digits.length with
      | [] => some 1
      | ['b'] => some 512
      | [c, 'B'] => power 1000 [c]
      | [c, 'i', 'B'] => power 1024 [c]
      | unit => power 1024 unit
    unit?.map fun unit => Text.decimalValue digits * unit

end Program
end Shell
end ContractAssist
