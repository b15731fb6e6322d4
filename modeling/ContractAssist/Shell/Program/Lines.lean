import ContractAssist.Shell.Program.Basic
import ContractAssist.Shell.Test

/-!
# Lines — programs that work line by line

* `Program.tac` and `Program.rev` turn lines around, `Program.nl` numbers them;
* `Program.cut` keeps parts of each line;
* `Program.sort` puts lines in order, `Program.uniq` drops repeated ones.
-/

namespace ContractAssist
namespace Shell
namespace Program

/-! ## Order of lines and characters -/

def mapping (name : Text) (failure : Text → IoError → Text) (f : Text → Text)
    (paths : List Text) : Act Nat :=
  forAll (fun path => do
    match ← contentOf path with
    | .ok text => write name (f text)
    | .error e => do
      complain name (failure path e)
      return 1) (inputs paths)

def readFailure (path : Text) (e : IoError) : Text :=
  shown path ++ ": " ++ e.text

def tac : Program :=
  withOptions 1 "br" [] fun name o =>
    let failure (path : Text) (e : IoError) : Text :=
      if e = .isADirectory then shown path ++ ": read error: Invalid argument"
      else "failed to open " ++ shellQuoted path ++ " for reading: " ++ e.text
    mapping name failure (fun t => (linesOf '\n' t).reverse.flatten) o.others

def rev : Program :=
  withOptions 1 "" [] fun name o =>
    mapping name (fun path e => "cannot open " ++ path ++ ": " ++ e.text)
      (fun t => (linesOf '\n' t).flatMap fun line =>
        (bodyOf '\n' line).reverse ++ line.drop (bodyOf '\n' line).length) o.others

/-- Numbers lines, all of them if `all` is set. -/
def numberLines (all : Bool) (separator : Text) (width : Nat) : Nat → List Text → Text
  | _, [] => []
  | n, line :: r =>
    if all || bodyOf '\n' line ≠ [] then
      List.leftpad width ' ' (Text.ofNat n) ++ separator ++ line
        ++ numberLines all separator width (n + 1) r
    else List.replicate (width + separator.length) ' ' ++ line
      ++ numberLines all separator width n r

def nl : Program :=
  withOptions 1 "b:w:s:n:v:i:" [] fun name o =>
    let all := o.argument? 'b' = some ['a']
    let width := ((o.argument? 'w').bind amount?).getD 6
    let separator := (o.argument? 's').getD ['\t']
    let first := ((o.argument? 'v').bind amount?).getD 1
    mapping name readFailure
      (fun t => numberLines all separator width first (linesOf '\n' t)) o.others

/-! ## Parts of lines -/

inductive RangeFault where
  | unbounded
  | decreasing
  | zero
  | noNumber (t : Text)
  deriving DecidableEq, Repr, Inhabited

/-- The wording of a fault; are fields counted, or characters? -/
def RangeFault.text (fields : Bool) : RangeFault → Text
  | unbounded => "invalid range with no endpoint: -"
  | decreasing => "invalid decreasing range"
  | zero => if fields then "fields are numbered from 1"
    else "byte/character positions are numbered from 1"
  | noNumber t => (if fields then "invalid field value " else "invalid byte/character position ")
      ++ quoted t

/-- The first and the last number of a range; there may be no last one. -/
def range? (t : Text) : Except RangeFault (Nat × Option Nat) := do
  let number (t : Text) : Except RangeFault Nat :=
    if t.all Char.isDigit then .ok (Text.decimalValue t) else .error (.noNumber t)
  match Text.parts '-' t with
  | [one] =>
    let n ← number one
    if n = 0 then .error .zero else return (n, some n)
  | [[], []] => .error .unbounded
  | [first, last] =>
    let a ← if first.isEmpty then pure 1 else number first
    let b ← if last.isEmpty then pure none else (number last).map some
    if a = 0 then .error .zero
    else if b.any (· < a) then .error .decreasing
    else return (a, b)
  | _ => .error (.noNumber t)

def inRanges (ranges : List (Nat × Option Nat)) (n : Nat) : Bool :=
  ranges.any fun r => r.1 ≤ n && r.2.all fun last => n ≤ last

def chosenOf {α : Type} (chosen : Nat → Bool) (list : List α) : List α :=
  (list.zipIdx.filter fun x => chosen (x.2 + 1)).map Prod.fst

def cutLine (fields quiet : Bool) (mark : Char) (joint : Text) (chosen : Nat → Bool)
    (line : Text) : Text :=
  if !fields then
    Text.joinWith joint ((chosenOf chosen line).map fun c => [c]) ++ ['\n']
  else if !line.elem mark then (if quiet then [] else line ++ ['\n'])
  else Text.joinWith joint (chosenOf chosen (Text.parts mark line)) ++ ['\n']

def cut : Program :=
  withOptions 1 "b:c:d:f:nsz" (longOptions [("only-delimited", 's'), ("complement", 'C')]
    [("bytes", 'b'), ("characters", 'c'), ("delimiter", 'd'), ("fields", 'f'),
      ("output-delimiter", 'O')]) fun name o => do
      let lists := o.given.filter fun g => "bcf".toList.elem g.letter
      match lists with
      | [] => misuse 1 name "you must specify a list of bytes, characters, or fields"
      | _ :: _ :: _ => misuse 1 name "only one list may be specified"
      | [list] => do
        let fields := list.letter = 'f'
        let mark? : Option Char := match o.argument? 'd' with
          | none => some '\t'
          | some [] => some '\x00'
          | some [c] => some c
          | some _ => none
        let ranges? := ((Text.parts ',' list.argument).flatMap (Text.parts ' ')).mapM range?
        match mark?, ranges? with
        | none, _ => misuse 1 name "the delimiter must be a single character"
        | _, .error fault => misuse 1 name (fault.text fields)
        | some mark, .ok ranges => do
          let chosen (n : Nat) : Bool := inRanges ranges n != o.has 'C'
          let joint := (o.argument? 'O').getD (if fields then [mark] else [])
          mapping name readFailure (fun t => (linesOf '\n' t).flatMap fun line =>
            cutLine fields (o.has 's') mark joint chosen (bodyOf '\n' line)) o.others

/-! ## Sorted and repeated lines -/

/-- The number at the front of a line, in units of the last of many places. -/
def frontNumber (t : Text) : Int :=
  let t := t.dropWhile fun c => c = ' ' || c = '\t'
  let (negative, t) := match t with
    | '-' :: r => (true, r)
    | r => (false, r)
  let whole := t.takeWhile Char.isDigit
  let places := match t.drop whole.length with
    | '.' :: r => r.takeWhile Char.isDigit
    | _ => []
  let n : Int := Text.decimalValue (whole ++ (places ++ List.replicate 20 '0').take 20)
  if negative then -n else n

structure Sorting where
  numeric : Bool
  folds : Bool
  -- without regard to blanks in front?
  blanks : Bool
  reversed : Bool
  unique : Bool
  stable : Bool
  deriving DecidableEq, Repr, Inhabited

namespace Sorting

def key (s : Sorting) (line : Text) : Text :=
  let line := if s.blanks then line.dropWhile fun c => c = ' ' || c = '\t' else line
  if s.folds then line.map Char.toUpper else line

def order (a b : Text) : Ordering :=
  if a = b then .eq else if Test.isBefore a b then .lt else .gt

def keyOrder (s : Sorting) (a b : Text) : Ordering :=
  let found := if s.numeric then compare (frontNumber a) (frontNumber b)
    else order (s.key a) (s.key b)
  if s.reversed then found.swap else found

def allows (s : Sorting) (a b : Text) : Bool :=
  match s.keyOrder a b with
  | .lt => true
  | .gt => false
  | .eq =>
    if s.stable || s.unique then true
    else (if s.reversed then (order a b).swap else order a b) ≠ .gt

/-- The lines without those that are equal to the one before. -/
def distinct (s : Sorting) : List Text → List Text
  | a :: b :: r =>
    match distinct s (b :: r) with
    | next :: others => if s.keyOrder a next = .eq then a :: others else a :: next :: others
    | [] => [a]
  | r => r

def apply (s : Sorting) (lines : List Text) : List Text :=
  let sorted := lines.mergeSort s.allows
  if s.unique then s.distinct sorted else sorted

end Sorting

/-- The lines of several files, or the first cause for which one cannot be read. -/
def linesOfAll (ending : Char) : List Text → Act (Except (Text × IoError) (List Text))
  | [] => pure (.ok [])
  | path :: r => do
    match ← contentOf path with
    | .error e => return .error (path, e)
    | .ok text => do
      let others ← linesOfAll ending r
      return others.map fun lines => (linesOf ending text).map (bodyOf ending) ++ lines

def sort : Program :=
  withOptions 2 "bdfgho:inrsuz" (longOptions [("numeric-sort", 'n'), ("reverse", 'r'),
    ("unique", 'u'), ("ignore-case", 'f'), ("stable", 's'), ("ignore-leading-blanks", 'b')]
    [("output", 'o')]) fun name o => do
      let numeric := o.has 'n' || o.has 'g' || o.has 'h'
      let s : Sorting := ⟨numeric, o.has 'f', o.has 'b', o.has 'r', o.has 'u', o.has 's'⟩
      let ending := if o.has 'z' then '\x00' else '\n'
      match ← linesOfAll ending (inputs o.others) with
      | .error (path, e) => do
        let what : Text := if e = .isADirectory then "read failed: " else "cannot read: "
        complain name (what ++ shown path ++ ": " ++ e.text)
        return 2
      | .ok lines => do
        let text := (s.apply lines).flatMap fun line => line ++ [ending]
        match o.argument? 'o' with
        | none => write name text
        | some path =>
          match ← Act.openPath .clobber path with
          | .error e => do
            complain name ("open failed: " ++ shown path ++ ": " ++ e.text)
            return 2
          | .ok channel => do
            Act.modify fun s => s.redirect 1 (some channel)
            write name text

/-- Neighbours that are equal by a key are one line with their number. -/
def runs (key : Text → Text) : List Text → List (Text × Nat)
  | [] => []
  | line :: r =>
    match runs key r with
    | (next, n) :: others =>
      if key line = key next then (line, n + 1) :: others else (line, 1) :: (next, n) :: others
    | [] => [(line, 1)]

def uniq : Program :=
  withOptions 1 "cdiuz" (longOptions [("count", 'c'), ("repeated", 'd'), ("ignore-case", 'i'),
    ("unique", 'u')] []) fun name o => do
      match o.others with
      | _ :: _ :: third :: _ => extra name third
      | others => do
        let path := others.headD dash
        match ← contentOf path with
        | .error e => do
          complain name (if e = .isADirectory then
              "error reading " ++ shellQuoted path ++ ": " ++ e.text
            else readFailure path e)
          return 1
        | .ok text => do
          let key (line : Text) : Text := if o.has 'i' then line.map Char.toLower else line
          let found := runs key ((linesOf '\n' text).map (bodyOf '\n'))
          let kept := found.filter fun x =>
            (!o.has 'd' || 1 < x.2) && (!o.has 'u' || x.2 = 1)
          let line (x : Text × Nat) : Text :=
            let front := List.leftpad 7 ' ' (Text.ofNat x.2) ++ [' ']
            (if o.has 'c' then front else []) ++ x.1 ++ ['\n']
          match others[1]? with
          | none => write name (kept.flatMap line)
          | some target =>
            match ← Act.openPath .clobber target with
            | .error e => do
              complainOf name target e
              return 1
            | .ok channel => do
              Act.modify fun s => s.redirect 1 (some channel)
              write name (kept.flatMap line)

end Program
end Shell
end ContractAssist
