import ContractAssist.Decimal.Double
import ContractAssist.Shell.Arithmetic

/-!
# Format — texts that are put together

* `Format.echo` joins arguments and resolves their escapes;
* `Format.print` fills arguments into a format, and uses the format again while there are more.
-/

namespace ContractAssist
namespace Shell
namespace Format

/-- A text with its escapes resolved; `stopped` if nothing may follow it. -/
structure Resolved where
  text : Text
  stopped : Bool
  deriving DecidableEq, Repr, Inhabited

def simpleEscape? (c : Char) : Option Char :=
  match c with
  | 'a' => some '\x07'
  | 'b' => some '\x08'
  | 'e' => some '\x1b'
  | 'f' => some '\x0c'
  | 'n' => some '\n'
  | 'r' => some '\r'
  | 't' => some '\t'
  | 'v' => some '\x0b'
  | '\\' => some '\\'
  | _ => none

def isOctal (c : Char) : Bool :=
  '0' ≤ c && c ≤ '7'

def octalByte (digits : Text) : Char :=
  Char.ofNat (digits.foldl (fun n c => n * 8 + (c.toNat - 48)) 0 % 256)

/--
The character that an escape stands for, and what follows it, given the text after the backslash;
without a known escape the backslash stands for itself.
-/
def escape (t : Text) : Char × Text :=
  let digits := (t.take 3).takeWhile isOctal
  if !digits.isEmpty then (octalByte digits, t.drop digits.length)
  else
    match t with
    | c :: r =>
      match simpleEscape? c with
      | some x => (x, r)
      | none => ('\\', c :: r)
    | [] => ('\\', [])

/-- Resolves escapes; a zero can have three more digits after it. -/
def resolveWithin : Nat → Text → Resolved
  | 0, t => ⟨t, false⟩
  | _, [] => ⟨[], false⟩
  | _, '\\' :: 'c' :: _ => ⟨[], true⟩
  | fuel + 1, '\\' :: '0' :: r =>
    let digits := (r.take 3).takeWhile isOctal
    let rest := resolveWithin fuel (r.drop digits.length)
    ⟨octalByte digits :: rest.text, rest.stopped⟩
  | fuel + 1, '\\' :: r =>
    let (c, r) := escape r
    let rest := resolveWithin fuel r
    ⟨c :: rest.text, rest.stopped⟩
  | fuel + 1, c :: r =>
    let rest := resolveWithin fuel r
    ⟨c :: rest.text, rest.stopped⟩

def resolve (t : Text) : Resolved :=
  resolveWithin t.length t

/-- Arguments with blanks between them and a line end, unless the first one forbids it. -/
def echo (arguments : List Text) : Text :=
  let (quiet, arguments) := match arguments with
    | ['-', 'n'] :: r => (true, r)
    | r => (false, r)
  let resolved := resolve (Text.joinWith " " arguments)
  if quiet || resolved.stopped then resolved.text else resolved.text ++ "\n"

/-! ## Formats -/

inductive Complaint where
  | noNumber (argument : Text)
  -- an argument begins with a number and goes on otherwise
  | partialNumber (argument : Text)
  -- an argument is a number that is too large
  | outOfRange (argument : Text)
  | unknownDirective (directive : Text)
  | noLetter
  deriving DecidableEq, Repr, Inhabited

def Complaint.text : Complaint → Text
  | .noNumber argument => argument ++ ": expected numeric value"
  | .partialNumber argument => argument ++ ": not completely converted"
  | .outOfRange argument => argument ++ ": Numerical result out of range"
  | .unknownDirective directive => directive ++ ": invalid directive"
  | .noLetter => "missing format character"

/-- The status after a complaint; a bad argument counts less than a bad format. -/
def Complaint.status : Complaint → Nat
  | .noNumber _ => 1
  | .partialNumber _ => 1
  | .outOfRange _ => 1
  | .unknownDirective _ => 2
  | .noLetter => 2

structure Spec where
  left : Bool
  zero : Bool
  -- is a number written in its other form?
  other : Bool
  -- what stands before a positive number with a sign
  sign : Text
  width : Nat
  precision : Option Nat
  deriving DecidableEq, Repr, Inhabited

def pad (s : Spec) (t : Text) : Text :=
  let missing := s.width - t.length
  if s.left then t ++ List.replicate missing ' ' else List.replicate missing ' ' ++ t

def padNumber (s : Spec) (sign digits : Text) : Text :=
  let digits := List.replicate ((s.precision.getD 0) - digits.length) '0' ++ digits
  if s.zero && !s.left && s.precision.isNone then
    sign ++ List.replicate (s.width - sign.length - digits.length) '0' ++ digits
  else pad s (sign ++ digits)

def flags (s : Spec) : Text → Spec × Text
  | '-' :: r => flags { s with left := true } r
  | '0' :: r => flags { s with zero := true } r
  | '+' :: r => flags { s with sign := "+" } r
  | ' ' :: r => flags { s with sign := if s.sign.isEmpty then " " else s.sign } r
  | '#' :: r => flags { s with other := true } r
  | r => (s, r)

/-- What an argument comes to: a value, and a complaint about it. -/
structure Converted (α : Type) where
  value : α
  complaint : Option Complaint
  deriving Repr, Inhabited

def complaintAbout (argument left : Text) (isOut : Bool) : Option Complaint :=
  if !left.isEmpty then
    some (if left.length = argument.length then .noNumber argument else .partialNumber argument)
  else if isOut then some (.outOfRange argument)
  else none

def quotedCode? (t : Text) : Option Nat :=
  match t with
  | '\'' :: r => some ((r.head?.map Char.toNat).getD 0)
  | '"' :: r => some ((r.head?.map Char.toNat).getD 0)
  | _ => none

/-- The whole number that an argument stands for; a quote stands for the code of the next one. -/
def argumentNumber (t : Text) : Converted Int :=
  match quotedCode? t with
  | some n => ⟨n, none⟩
  | none =>
    match Arithmetic.integer? t with
    | some (n, left) =>
      ⟨Arithmetic.clamp n, complaintAbout t left (Arithmetic.clamp n ≠ n)⟩
    | none => ⟨0, complaintAbout t t false⟩

/-- The number without a sign that an argument stands for; a negative one counts from the end. -/
def argumentWord (t : Text) : Converted Nat :=
  match quotedCode? t with
  | some n => ⟨n, none⟩
  | none =>
    let size := Nat.pow 2 64
    match Arithmetic.integer? t with
    | some (n, left) =>
      let isOut := size ≤ n.natAbs
      ⟨if isOut then size - 1 else (n % size).toNat, complaintAbout t left isOut⟩
    | none => ⟨0, complaintAbout t t false⟩

def argumentDouble (t : Text) : Converted Double :=
  match quotedCode? t with
  | some n => ⟨(Double.ofFraction false n 1).1, none⟩
  | none =>
    match Double.read? t with
    | some (x, isOut, left) => ⟨x, complaintAbout t left isOut⟩
    | none => ⟨.finite false 0 0, complaintAbout t t false⟩

/-- A size in a directive, or the argument that stands for it. -/
def size (t : Text) (arguments : List Text) : Int × Text × List Text :=
  match t with
  | '*' :: r => ((argumentNumber (arguments.headD [])).value, r, arguments.tail)
  | _ =>
    let digits := t.takeWhile Char.isDigit
    (Text.decimalValue digits, t.drop digits.length, arguments)

/-- Reads width and precision of a directive; a negative width places the value at the left. -/
def sizes (s : Spec) (t : Text) (arguments : List Text) : Spec × Text × List Text :=
  let (width, rest, arguments) := size t arguments
  let s := { s with width := width.natAbs, left := s.left || width < 0 }
  match rest with
  | '.' :: r =>
    let (precision, rest, arguments) := size r arguments
    ({ s with precision := if precision < 0 then none else some precision.toNat }, rest, arguments)
  | r => (s, r, arguments)

def padDouble (s : Spec) (sign digits : Text) (isFinite : Bool) : Text :=
  if s.zero && !s.left && isFinite then
    let (mark, digits) := if ("0x" : Text).isPrefixOf digits then (digits.take 2, digits.drop 2)
      else ([], digits)
    sign ++ mark ++ List.replicate (s.width - sign.length - mark.length - digits.length) '0'
      ++ digits
  else pad s (sign ++ digits)

/-- A number of double precision as the letter of a directive wants it. -/
def convertDouble (s : Spec) (letter : Char) (argument : Text) : Converted Resolved :=
  let number := argumentDouble argument
  let x := number.value
  let digits := match letter.toLower with
    | 'f' => x.plain (s.precision.getD 6) s.other
    | 'e' => x.scientific (s.precision.getD 6) s.other
    | 'g' => x.shorter (s.precision.getD 6) s.other
    | _ => x.binary
  let digits := if letter.isUpper then digits.map Char.toUpper else digits
  let isFinite := match x with
    | .finite _ _ _ => true
    | _ => false
  let sign : Text := if x.isNegative then "-" else s.sign
  ⟨⟨padDouble s sign digits isFinite, false⟩, number.complaint⟩

/-- A number without a sign as the letter of a directive wants it. -/
def convertWord (s : Spec) (letter : Char) (argument : Text) : Converted Resolved :=
  let number := argumentWord argument
  let n := number.value
  let digits : Text := if n = 0 && s.precision = some 0 then [] else
    match letter with
    | 'x' => Nat.toDigits 16 n
    | 'X' => (Nat.toDigits 16 n).map Char.toUpper
    | 'o' => Nat.toDigits 8 n
    | _ => Text.ofNat n
  let (mark, digits) : Text × Text := match s.other, letter with
    | true, 'x' => (if n = 0 then [] else ['0', 'x'], digits)
    | true, 'X' => (if n = 0 then [] else ['0', 'X'], digits)
    | true, 'o' => ([], if digits.head? = some '0' then digits else '0' :: digits)
    | _, _ => ([], digits)
  ⟨⟨padNumber s mark digits, false⟩, number.complaint⟩

def convert (s : Spec) (letter : Char) (argument : Text) : Converted Resolved :=
  if letter = 's' then
    let shown := match s.precision with
      | some n => argument.take n
      | none => argument
    ⟨⟨pad s shown, false⟩, none⟩
  else if letter = 'b' then
    let resolved := resolve argument
    let shown := match s.precision with
      | some n => resolved.text.take n
      | none => resolved.text
    ⟨⟨pad s shown, resolved.stopped⟩, none⟩
  else if letter = 'c' then
    ⟨⟨pad s (if argument.isEmpty then ['\x00'] else argument.take 1), false⟩, none⟩
  else if ("xXou" : Text).elem letter then convertWord s letter argument
  else if ("di" : Text).elem letter then
    let number := argumentNumber argument
    let n := number.value
    let sign : Text := if n < 0 then "-" else s.sign
    let digits : Text := if n = 0 && s.precision = some 0 then [] else Text.ofNat n.natAbs
    ⟨⟨padNumber s sign digits, false⟩, number.complaint⟩
  else convertDouble s letter argument

def letters : Text := "sbcdiuxXoaAeEfFgG"

/-- What one use of a format comes to. -/
structure Filled where
  text : Text
  left : List Text
  stopped : Bool
  -- what is wrong with the format or its arguments
  complaints : List Complaint
  deriving DecidableEq, Repr, Inhabited

def Filled.after (text : Text) (complaint : Option Complaint) (f : Filled) : Filled :=
  { f with text := text ++ f.text, complaints := complaint.toList ++ f.complaints }

def fill : Nat → Text → List Text → Filled
  | 0, t, arguments => ⟨t, arguments, false, []⟩
  | _, [], arguments => ⟨[], arguments, false, []⟩
  | fuel + 1, '%' :: '%' :: r, arguments => (fill fuel r arguments).after "%" none
  | fuel + 1, '%' :: t, arguments =>
    let (s, r) := flags ⟨false, false, false, [], 0, none⟩ t
    let (s, r, arguments) := sizes s r arguments
    match r with
    | letter :: r =>
      if letters.elem letter then
        let converted := convert s letter (arguments.headD [])
        let rest := if converted.value.stopped then ⟨[], [], true, []⟩
          else fill fuel r arguments.tail
        rest.after converted.value.text converted.complaint
      else ⟨[], [], true, [.unknownDirective ('%' :: t.take (t.length - r.length))]⟩
    | [] => ⟨[], [], true, [.noLetter]⟩
  | fuel + 1, '\\' :: r, arguments =>
    let (c, r) := escape r
    (fill fuel r arguments).after [c] none
  | fuel + 1, c :: r, arguments => (fill fuel r arguments).after [c] none

/--
Uses a format until no argument is left, or a use takes none; `fuel` bounds the number of uses.
-/
def printWithin : Nat → Text → List Text → Filled
  | 0, _, arguments => ⟨[], arguments, false, []⟩
  | fuel + 1, format, arguments =>
    let filled := fill (format.length + 1) format arguments
    if filled.stopped || filled.left.isEmpty || filled.left.length = arguments.length then filled
    else
      let rest := printWithin fuel format filled.left
      { rest with
        text := filled.text ++ rest.text
        complaints := filled.complaints ++ rest.complaints }

def print (format : Text) (arguments : List Text) : Filled :=
  printWithin (arguments.length + 1) format arguments

def Filled.status (f : Filled) : Nat :=
  f.complaints.foldl (fun n c => max n c.status) 0

end Format
end Shell
end ContractAssist
