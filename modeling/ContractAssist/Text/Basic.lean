/-!
# Text — character sequences and their UTF-8 sizes

The words the rest of the library uses for text that is inspected character by character.

* `Text` is a list of characters, so that every rule about it is a recursion on a list;
* `Text.ofNat` writes a number, `Text.decimalValue` reads one;
* `isBlank` is the Unicode property `White_Space`, and `Text.trim` removes it at both ends;
* `Text.byteSize` and `Text.dropBytes` measure and cut in UTF-8 bytes, and a cut always falls
  between two characters;
* `Text.lines` splits at line feeds and carriage returns without losing a character.
-/

namespace ContractAssist

/-- Text as a sequence of Unicode scalar values. -/
abbrev Text := List Char

/-- The Unicode property `White_Space`. -/
def isBlank (c : Char) : Bool :=
  let n := c.toNat
  (9 ≤ n && n ≤ 13) || n == 0x20 || n == 0x85 || n == 0xA0 || n == 0x1680
    || (0x2000 ≤ n && n ≤ 0x200A) || n == 0x2028 || n == 0x2029 || n == 0x202F || n == 0x205F
    || n == 0x3000

/-- A literal stands for the text of its characters. -/
instance : Coe String Text := ⟨String.toList⟩

namespace Text

/-! ## Numbers -/

def ofNat (n : Nat) : Text :=
  Nat.toDigits 10 n

/-- A number in base ten with at least `width` digits. -/
def ofNatPadded (width n : Nat) : Text :=
  List.leftpad width '0' (ofNat n)

/-- The value of a digit of base sixteen, in either case. -/
def hexDigitValue? (c : Char) : Option Nat :=
  if '0' ≤ c ∧ c ≤ '9' then some (c.toNat - 48)
  else if 'a' ≤ c ∧ c ≤ 'f' then some (c.toNat - 87)
  else if 'A' ≤ c ∧ c ≤ 'F' then some (c.toNat - 55)
  else none

def decimalValue (digits : Text) : Nat :=
  digits.foldl (fun n c => n * 10 + (c.toNat - 48)) 0

/-- A whole number of at most 64 bits, with or without a plus sign. -/
def natural64? (t : Text) : Option Nat :=
  let digits := match t with
    | '+' :: r => r
    | t => t
  if digits.isEmpty ∨ !digits.all Char.isDigit then none
  else (some (decimalValue digits)).filter fun n => n < Nat.pow 2 64

/-! ## Blanks -/

def trimStart (t : Text) : Text :=
  t.dropWhile isBlank

def trimEnd (t : Text) : Text :=
  (t.reverse.dropWhile isBlank).reverse

def trim (t : Text) : Text :=
  trimEnd (trimStart t)

def allBlank (t : Text) : Bool :=
  t.all isBlank

/-! ## Occurrence -/

def contains (needle : Text) : Text → Bool
  | [] => needle.isEmpty
  | c :: r => needle.isPrefixOf (c :: r) || contains needle r

def containsAny (needles : List Text) (t : Text) : Bool :=
  needles.any fun needle => contains needle t

/-- What follows `needle` at the front of the text. -/
def afterFront? (needle t : Text) : Option Text :=
  if needle.isPrefixOf t then some (t.drop needle.length) else none

/-- The text with `new` in place of each occurrence of `old`; `fuel` bounds the number of steps. -/
def replaceWithin (old new : Text) : Nat → Text → Text
  | _, [] => []
  | 0, t => t
  | fuel + 1, c :: r =>
    match afterFront? old (c :: r) with
    | some rest => new ++ replaceWithin old new fuel rest
    | none => c :: replaceWithin old new fuel r

/-- The text with `new` in place of each occurrence of `old`, from left to right. -/
def replaceAll (old new t : Text) : Text :=
  if old.isEmpty then t else replaceWithin old new t.length t

/-! ## Sizes in bytes -/

/-- The number of bytes of the UTF-8 form. -/
def byteSize : Text → Nat
  | [] => 0
  | c :: r => c.utf8Size + byteSize r

/--
The rest of the text after its first `n` bytes. When byte `n` is inside a character, that
character goes too, so at most `byteSize t - n` bytes are left.
-/
def dropBytes (n : Nat) : Text → Text
  | [] => []
  | c :: r => if n = 0 then c :: r else dropBytes (n - c.utf8Size) r

/--
The rest of the text after its first `n` bytes. When byte `n` is inside a character, that
character stays, so at least `byteSize t - n` bytes are left.
-/
def dropBytesBefore (n : Nat) : Text → Text
  | [] => []
  | c :: r => if n < c.utf8Size then c :: r else dropBytesBefore (n - c.utf8Size) r

/-! ## Lines -/

/-- A line ends at a line feed or at a carriage return. -/
def isLineBreak (c : Char) : Bool :=
  c == '\n' || c == '\r'

/-- One line of a text: its characters and the break that ends it, if one does. -/
structure Line where
  body : Text
  -- the break, or nothing for the unterminated last line
  ending : Text
  deriving DecidableEq, Repr

namespace Line

def whole (l : Line) : Text :=
  l.body ++ l.ending

def cons (c : Char) (l : Line) : Line :=
  ⟨c :: l.body, l.ending⟩

end Line

/--
The lines of a text: the first one, and those after it. Every line but the last ends in a break;
the last one is unterminated, and empty when the text ends in a break.
-/
def lines : Text → Line × List Line
  | [] => (⟨[], []⟩, [])
  | c :: r =>
    match lines r with
    | (first, others) =>
      if isLineBreak c then (⟨[], [c]⟩, first :: others) else (first.cons c, others)

/-! ## Cutting and joining -/

/-- The parts of a text between separators, empty ones included. -/
def parts (separator : Char) : Text → List Text
  | [] => [[]]
  | c :: r =>
    if c = separator then [] :: parts separator r
    else
      match parts separator r with
      | [] => [[c]]
      | part :: others => (c :: part) :: others

def joinWith (separator : Text) : List Text → Text
  | [] => []
  | [t] => t
  | t :: u :: r => t ++ separator ++ joinWith separator (u :: r)

end Text

end ContractAssist
