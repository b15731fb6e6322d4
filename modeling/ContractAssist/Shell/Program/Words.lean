import ContractAssist.Decimal.Double
import ContractAssist.Shell.Format
import ContractAssist.Shell.Program.Basic
import ContractAssist.Shell.Test

/-!
# Words — programs that work on their arguments alone

* `Program.echo` and `Program.printf` write their arguments, `Program.test` decides about them;
* `Program.sleep` lets time pass;
* `Program.seq` counts, `Program.expr` calculates;
* `Program.pwd`, `Program.printenv` and others tell where a program is.
-/

namespace ContractAssist
namespace Shell
namespace Program

def constant (status : Nat) : Program := fun _ _ => pure status

def saying (line : Text) (status : Nat) : Program :=
  withOptions 1 "asnrvmpiou" [] fun name _ => do
    return max status (← write name (line ++ "\n"))

/-! ## Terminals -/

/-- Words that change a terminal; a dash before one turns it off. -/
def terminalSwitches : List Text :=
  (["brkint", "cbreak", "clocal", "cooked", "cread", "crtscts", "cs7", "cs8", "cstopb", "decctlq",
    "echo", "echoctl", "echoe", "echok", "echoke", "echonl", "echoprt", "evenp", "hup", "hupcl",
    "icanon", "icrnl", "iexten", "ignbrk", "igncr", "ignpar", "inlcr", "inpck", "isig", "istrip",
    "iuclc", "iutf8", "ixany", "ixoff", "ixon", "lcase", "litout", "nl", "noflsh", "ocrnl",
    "ofdel", "ofill", "olcuc", "onlcr", "onlret", "onocr", "opost", "parenb", "parity", "parmrk",
    "parodd", "pass8", "raw", "tabs", "tostop", "xcase"] : List String).map String.toList

def terminalWords : List Text :=
  (["--all", "--save", "-a", "-g", "crt", "dec", "ek", "sane", "size", "speed"]
    : List String).map String.toList

def isAboutTerminal (word : Text) : Bool :=
  let name := if word.head? = some '-' then word.tail else word
  terminalWords.contains word || terminalSwitches.contains name
    || (!word.isEmpty && word.all Char.isDigit)

/-- Asks for changes of the terminal; the input is none. -/
def stty : Program := fun name arguments => do
  match arguments.find? fun word => !isAboutTerminal word with
  | some word => misuse 1 name ("invalid argument " ++ quoted word)
  | none => do
    complain name "'standard input': Inappropriate ioctl for device"
    return 1

/-! ## Time -/

def span? (t : Text) : Option Duration :=
  match Double.read? t with
  | none => none
  | some (x, _, unit) =>
    let seconds? : Option Nat := match unit with
      | [] => some 1
      | ['s'] => some 1
      | ['m'] => some 60
      | ['h'] => some 3600
      | ['d'] => some 86400
      | _ => none
    match x, seconds? with
    | .finite negative mantissa exponent, some seconds =>
      if negative && mantissa ≠ 0 then none
      else
        let (a, b) := Double.scaled 2 (mantissa * seconds * Duration.nanosPerSecond) exponent
        some ⟨(a + b - 1) / b⟩
    | .infinite false, some _ => some .longest
    | _, _ => none

def sleep : Program :=
  withOptions 1 [] [] fun name o => do
    match o.others.mapM span? with
    | some (span :: spans) => do
      Act.rest (spans.foldl (fun a b => ⟨a.nanos + b.nanos⟩) span)
      return 0
    | some [] => missing name
    | none => do
      let wrong := o.others.filter fun a => (span? a).isNone
      let _ ← wrong.mapM fun a => complain name ("invalid time interval " ++ quoted a)
      misuse 1 name []

/-- What stands for a letter in the format of a time, which is that of the beginning. -/
def timePart (letter : Char) : Text :=
  match letter with
  | 'Y' => "1970"
  | 'y' => "70"
  | 'm' => "01"
  | 'd' => "01"
  | 'j' => "001"
  | 's' => "0"
  | 'F' => "1970-01-01"
  | 'T' => "00:00:00"
  | 'N' => "000000000"
  | 'Z' => "UTC"
  | 'z' => "+0000"
  | 'n' => ['\n']
  | 't' => ['\t']
  | '%' => ['%']
  | c => if "HMS".toList.elem c then "00" else ['%', c]

def timeText : Text → Text
  | '%' :: c :: r => timePart c ++ timeText r
  | c :: r => c :: timeText r
  | [] => []

/-- The time; a machine that is not asked for another one shows the beginning. -/
def date : Program :=
  withOptions 1 "ud:r:RI" (longOptions [("utc", 'u'), ("universal", 'u')] [("date", 'd')])
    fun name o => do
      match o.others with
      | [] => write name "Thu Jan  1 00:00:00 UTC 1970\n"
      | ['+' :: format] => write name (timeText format ++ "\n")
      | argument :: _ => do
        complain name ("invalid date " ++ quoted argument)
        return 1

/-! ## Texts -/

/-- Leading arguments that are options of `echo`, which say whether escapes are resolved. -/
def echoOptions : Bool → Bool → List Text → Bool × Bool × List Text
  | quiet, resolves, ('-' :: c :: r) :: others =>
    if (c :: r).all fun c => "neE".toList.elem c then
      let last := (c :: r).reverse.find? fun c => c ≠ 'n'
      echoOptions (quiet || (c :: r).elem 'n') (last.elim resolves (· = 'e')) others
    else (quiet, resolves, ('-' :: c :: r) :: others)
  | quiet, resolves, others => (quiet, resolves, others)

def echo : Program := fun name arguments => do
  let (quiet, resolves, others) := echoOptions false false arguments
  let text := Text.joinWith " " others
  let resolved := if resolves then Format.resolve text else ⟨text, false⟩
  let ending : Text := if quiet || resolved.stopped then [] else ['\n']
  write name (resolved.text ++ ending)

/-- What is wrong with a format or its arguments, as programs say it. -/
def formatFault : Format.Complaint → Text
  | .noNumber argument => quoted argument ++ ": expected a numeric value"
  | .partialNumber argument => quoted argument ++ ": value not completely converted"
  | .outOfRange argument => quoted argument ++ ": Numerical result out of range"
  | .unknownDirective directive => directive ++ ": invalid conversion specification"
  | .noLetter => "%: invalid conversion specification"

def printf : Program := fun name arguments => do
  match if arguments.head? = some ['-', '-'] then arguments.tail else arguments with
  | [] => missing name
  | format :: r => do
    let filled := Format.print format r
    let _ ← filled.complaints.mapM fun c => complain name (formatFault c)
    let written ← write name filled.text
    return if filled.complaints.isEmpty then written else 1

/-! ## Conditions -/

def conditionFault : Test.Fault → Text
  | .noNumber word => "invalid integer " ++ quoted word
  | .noOperand operator => "missing argument after " ++ quoted operator
  | .unclosed => "')' expected"
  | .unended word => "extra argument " ++ quoted word

def test : Program := fun name words => do
  match Test.evaluate (← Act.tree) words with
  | .ok holds => return if holds then 0 else 1
  | .error fault => do
    complain name (conditionFault fault)
    return 2

def bracket : Program := fun name words => do
  if words.getLast? = some [']'] then test name words.dropLast
  else
    complain name "missing ']'"
    return 2

/-! ## Counting -/

/-- A number with a point, as whole units of its last place. -/
structure Decimal where
  units : Int
  places : Nat
  deriving DecidableEq, Repr, Inhabited

namespace Decimal

def ofText? (t : Text) : Option Decimal :=
  let (negative, digits) := match t with
    | '-' :: r => (true, r)
    | '+' :: r => (false, r)
    | r => (false, r)
  let (all, places, rest) := Double.pointed Char.isDigit digits
  if all.isEmpty || !rest.isEmpty then none
  else
    let n : Int := Text.decimalValue all
    some ⟨if negative then -n else n, places⟩

def widen (places : Nat) (d : Decimal) : Int :=
  d.units * (Nat.pow 10 (places - d.places) : Nat)

def text (places : Nat) (units : Int) : Text :=
  let digits := List.leftpad (places + 1) '0' (Text.ofNat units.natAbs)
  let whole := digits.take (digits.length - places)
  (if units < 0 then ['-'] else []) ++ whole
    ++ (if places = 0 then [] else '.' :: digits.drop (digits.length - places))

/-- Zeros between the sign and the digits, up to a width. -/
def padded (width : Nat) (t : Text) : Text :=
  match t with
  | '-' :: r => '-' :: List.leftpad (width - 1) '0' r
  | r => List.leftpad width '0' r

end Decimal

/-- So many numbers are written at once. -/
def countBlock : Nat := 1000

/-- The numbers from one on, as many as are written at once. -/
def countFrom (first step last : Int) : Nat → List Int
  | 0 => []
  | fuel + 1 =>
    if (0 < step && first ≤ last) || (step < 0 && last ≤ first) then
      first :: countFrom (first + step) step last fuel
    else []

/-- Writes numbers; `fuel` bounds the number of blocks. -/
def writeNumbers (name : Text) (shape : Int → Text) (separator : Text) (step last : Int) :
    Nat → Bool → Int → Act Nat
  | 0, _, _ => pure 0
  | fuel + 1, isFirst, first => do
    let numbers := countFrom first step last countBlock
    if numbers.isEmpty then
      if isFirst then return 0 else write name ['\n']
    else
      let text := Text.joinWith separator (numbers.map shape)
      let _ ← write name ((if isFirst then [] else separator) ++ text)
      writeNumbers name shape separator step last fuel false
        (first + step * (numbers.length : Nat))

def seqArguments : List Text → List Text
  | ('-' :: c :: r) :: others =>
    if c.isDigit || c = '.' then "--" :: ('-' :: c :: r) :: others
    else if ('-' :: c :: r) = ['-', 's'] || ('-' :: c :: r) = ['-', 'f'] then
      match others with
      | argument :: others => ('-' :: c :: r) :: argument :: seqArguments others
      | [] => ['-' :: c :: r]
    else ('-' :: c :: r) :: seqArguments others
  | others => others

def seq : Program := fun name arguments => do
  match Options.withLong "f:s:w" (longOptions [("equal-width", 'w')] [("separator", 's'),
      ("format", 'f')]) false none (seqArguments arguments) with
  | .error fault => misuse 1 name (faultText fault)
  | .ok o =>
    match o.others.find? fun a => (Decimal.ofText? a).isNone with
    | some wrong => misuse 1 name ("invalid floating point argument: " ++ quoted wrong)
    | none => do
      let one : Decimal := ⟨1, 0⟩
      let count (first step last : Decimal) (stepText : Text) : Act Nat := do
        if step.units = 0 then
          misuse 1 name ("invalid Zero increment value: " ++ quoted stepText)
        else
          let shownPlaces := max first.places step.places
          let places := max shownPlaces last.places
          let unit : Int := (Nat.pow 10 (places - shownPlaces) : Nat)
          let a := first.widen places
          let b := step.widen places
          let c := last.widen places
          let plain (n : Int) : Text := Decimal.text shownPlaces (n / unit)
          let width := max (plain a).length (plain (a + b * Int.tdiv (c - a) b)).length
          let shape (n : Int) : Text :=
            match o.argument? 'f' with
            | some format => (Format.print format [plain n]).text
            | none => if o.has 'w' then Decimal.padded width (plain n) else plain n
          writeNumbers name shape ((o.argument? 's').getD ['\n']) b c Act.manyPieces true a
      match o.others.filterMap Decimal.ofText? with
      | [] => missing name
      | [last] => count one one last []
      | [first, last] => count first one last []
      | [first, step, last] => count first step last ((o.others[1]?).getD [])
      | _ => extra name ((o.others[3]?).getD [])

/-- Writes a line again and again; `fuel` bounds the number of blocks. -/
def yesForever (name block : Text) : Nat → Act Nat
  | 0 => pure 0
  | fuel + 1 => do
    let failed ← write name block
    if failed ≠ 0 then return failed
    else
      Act.rest ⟨Duration.nanosPerMilli⟩
      yesForever name block fuel

def yes : Program :=
  withOptions 1 [] [] fun name o => do
    let line := (if o.others.isEmpty then ['y'] else Text.joinWith " " o.others) ++ ['\n']
    yesForever name (List.replicate (8192 / line.length + 1) line).flatten Act.manyPieces

/-! ## Calculating -/

inductive ExpressionFault where
  | ended (word : Text)
  | unexpected (word : Text)
  | noNumber
  | byZero
  deriving DecidableEq, Repr, Inhabited

def ExpressionFault.text : ExpressionFault → Text
  | ended word => "syntax error: missing argument after " ++ quoted word
  | unexpected word => "syntax error: unexpected argument " ++ quoted word
  | noNumber => "non-integer argument"
  | byZero => "division by zero"

namespace Expr

def isNull (t : Text) : Bool :=
  match t with
  | '-' :: r => !r.isEmpty && r.all (· = '0')
  | r => r.all (· = '0')

def number? (t : Text) : Except ExpressionFault Int :=
  let value (digits : Text) : Except ExpressionFault Int :=
    if !digits.isEmpty && digits.all Char.isDigit then .ok (Text.decimalValue digits)
    else .error .noNumber
  match t with
  | '-' :: r => (value r).map fun n => -n
  | r => value r

/-- How tightly an operator binds; the loosest is zero. -/
def level? (word : Text) : Option Nat :=
  match String.ofList word with
  | "|" => some 0
  | "&" => some 1
  | "<" => some 2
  | "<=" => some 2
  | "=" => some 2
  | "==" => some 2
  | "!=" => some 2
  | ">=" => some 2
  | ">" => some 2
  | "+" => some 3
  | "-" => some 3
  | "*" => some 4
  | "/" => some 4
  | "%" => some 4
  | _ => none

/-- Operators bind at most as tightly as this. -/
def tightest : Nat := 4

/-- The order of two values: that of numbers if both are, else that of texts. -/
def order (a b : Text) : Ordering :=
  match number? a, number? b with
  | .ok m, .ok n => compare m n
  | _, _ => if a = b then .eq else if Test.isBefore a b then .lt else .gt

def apply (operator a b : Text) : Except ExpressionFault Text := do
  let truth (holds : Bool) : Except ExpressionFault Text := .ok (if holds then ['1'] else ['0'])
  let numeric (f : Int → Int → Int) : Except ExpressionFault Text := do
    return Arithmetic.ofInt (f (← number? a) (← number? b))
  let divided (f : Int → Int → Int) : Except ExpressionFault Text := do
    let m ← number? a
    let n ← number? b
    if n = 0 then .error .byZero else return Arithmetic.ofInt (f m n)
  match String.ofList operator with
  | "|" => .ok (if !isNull a then a else if isNull b then ['0'] else b)
  | "&" => .ok (if isNull a || isNull b then ['0'] else a)
  | "<" => truth (order a b = .lt)
  | "<=" => truth (order a b ≠ .gt)
  | "!=" => truth (order a b ≠ .eq)
  | ">=" => truth (order a b ≠ .lt)
  | ">" => truth (order a b = .gt)
  | "+" => numeric (· + ·)
  | "-" => numeric (· - ·)
  | "*" => numeric (· * ·)
  | "/" => divided Int.tdiv
  | "%" => divided Int.tmod
  | _ => truth (order a b = .eq)

abbrev Found := Except ExpressionFault (Text × List Text)

mutual

/-- A chain of operations from a level on; `before` is the word in front. -/
def chain : Nat → Nat → Text → List Text → Found
  | 0, _, before, _ => .error (.ended before)
  | fuel + 1, level, before, words => do
    let (value, rest) ← if tightest < level then operand fuel before words
      else chain fuel (level + 1) before words
    chainFrom fuel level value rest

def chainFrom : Nat → Nat → Text → List Text → Found
  | 0, _, value, words => .ok (value, words)
  | _, _, value, [] => .ok (value, [])
  | fuel + 1, level, value, operator :: r =>
    if level? operator = some level then do
      let (second, rest) ← chain fuel (level + 1) operator r
      chainFrom fuel level (← apply operator value second) rest
    else .ok (value, operator :: r)

def operand : Nat → Text → List Text → Found
  | 0, before, _ => .error (.ended before)
  | _, before, [] => .error (.ended before)
  | fuel + 1, _, word :: r =>
    match String.ofList word with
    | "(" => do
      let (value, rest) ← chain fuel 0 word r
      match rest with
      | [')'] :: rest => .ok (value, rest)
      | other :: _ => .error (.unexpected other)
      | [] => .error (.ended value)
    | "length" => do
      let (value, rest) ← operand fuel word r
      .ok (Text.ofNat value.length, rest)
    | "index" => do
      let (value, rest) ← operand fuel word r
      let (set, rest) ← operand fuel value rest
      let place := value.findIdx fun c => set.elem c
      .ok (Text.ofNat (if place < value.length then place + 1 else 0), rest)
    | "substr" => do
      let (value, rest) ← operand fuel word r
      let (start, rest) ← operand fuel value rest
      let (length, rest) ← operand fuel start rest
      match number? start, number? length with
      | .ok i, .ok n =>
        let part := if 0 < i && 0 < n then (value.drop (i.toNat - 1)).take n.toNat else []
        .ok (part, rest)
      | _, _ => .ok ([], rest)
    | _ => .ok (word, r)

end

def evaluate (words : List Text) : Except ExpressionFault Text := do
  match ← chain (words.length * 8 + 8) 0 [] words with
  | (value, []) => return value
  | (_, word :: _) => .error (.unexpected word)

end Expr

def expr : Program := fun name words => do
  match if words.head? = some ['-', '-'] then words.tail else words with
  | [] => misuse 2 name "missing operand"
  | words =>
    match Expr.evaluate words with
    | .ok value => do
      let _ ← write name (value ++ ['\n'])
      return if Expr.isNull value then 1 else 0
    | .error fault => do
      complain name fault.text
      return 2

/-! ## Surroundings -/

def pwd : Program :=
  withOptions 1 "LP" (longOptions [("logical", 'L'), ("physical", 'P')] []) fun name o => do
    let s ← Act.get
    if !o.others.isEmpty then complain name "ignoring non-option arguments"
    let path := if o.last? ['L', 'P'] = some 'L' then s.path
      else ofText (FileTree.pathOf s.place)
    write name (path ++ ['\n'])

def printenv : Program :=
  withOptions 2 "0" (longOptions [("null", '0')] []) fun name o => do
    let s ← Act.get
    let ending := if o.has '0' then '\x00' else '\n'
    if o.others.isEmpty then
      write name (s.environment.flatMap fun v => v.1 ++ '=' :: v.2 ++ [ending])
    else
      let values := o.others.map fun n => (s.environment.find? fun v => v.1 = n).map Prod.snd
      let written ← write name (values.flatMap fun v => v.elim [] fun value => value ++ [ending])
      return if values.all Option.isSome then written else 1

def id : Program :=
  withOptions 1 "ugnGr" (longOptions [("user", 'u'), ("group", 'g'), ("name", 'n')] [])
    fun name o => do
      let line : Text := if o.given.isEmpty then "uid=0(root) gid=0(root) groups=0(root)"
        else if o.has 'n' then "root" else "0"
      write name (line ++ ['\n'])

end Program
end Shell
end ContractAssist
