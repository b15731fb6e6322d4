import ContractAssist.Shell.Format
import ContractAssist.Shell.Pattern
import ContractAssist.Shell.Program.Basic

/-!
# Characters — the program that replaces characters

* `setParts` and `setCharacters` read a set of characters: ranges, classes and repetitions;
* `Program.tr` replaces the characters of one set by those of another, or deletes them.
-/

namespace ContractAssist
namespace Shell
namespace Program

/-! ## Sets -/

inductive SetPart where
  | listed (characters : Text)
  -- one character so often; zero stands for as often as needed
  | repeated (c : Char) (count : Nat)
  deriving DecidableEq, Repr, Inhabited

inductive SetFault where
  | reversed (first last : Char)
  | noClass (name : Text)
  deriving DecidableEq, Repr, Inhabited

def SetFault.text : SetFault → Text
  | reversed first last =>
    "range-endpoints of '" ++ [first, '-', last] ++ "' are in reverse collating sequence order"
  | noClass name => "invalid character class " ++ quoted name

/-- The first character of a set, a backslash resolved, and what follows. -/
def setCharacter? : Text → Option (Char × Text)
  | [] => none
  | ['\\'] => some ('\\', [])
  | '\\' :: c :: r =>
    if Format.isOctal c then
      let digits := (c :: r.take 2).takeWhile Format.isOctal
      some (Format.octalByte digits, (c :: r).drop digits.length)
    else
      match Format.simpleEscape? c with
      | some e => some (e, r)
      | none => some (c, r)
  | c :: r => some (c, r)

def allCharacters : Text :=
  (List.range 256).map Char.ofNat

/-- The part of a set that stands between brackets, and what follows. -/
def bracketed? (t : Text) : Option (Except SetFault SetPart × Text) :=
  match t with
  | '[' :: ':' :: r =>
    let name := r.takeWhile Char.isAlpha
    match r.drop name.length with
    | ':' :: ']' :: rest =>
      some (match Pattern.isOfClass? name 'a' with
        | none => .error (.noClass name)
        | some _ => .ok (.listed (allCharacters.filter fun c =>
            (Pattern.isOfClass? name c).getD false)), rest)
    | _ => none
  | '[' :: '=' :: c :: '=' :: ']' :: rest => some (.ok (.listed [c]), rest)
  | '[' :: r =>
    match setCharacter? r with
    | some (c, '*' :: rest) =>
      let digits := rest.takeWhile Char.isDigit
      match rest.drop digits.length with
      | ']' :: rest =>
        let count := if digits.head? = some '0' then Arithmetic.digitsValue 8 digits
          else Text.decimalValue digits
        some (.ok (.repeated c count), rest)
      | _ => none
    | _ => none
  | _ => none

/-- The parts of a set of characters; `fuel` bounds their number. -/
def setParts : Nat → Text → Except SetFault (List SetPart)
  | 0, _ => .ok []
  | fuel + 1, t =>
    match bracketed? t with
    | some (.error fault, _) => .error fault
    | some (.ok part, rest) => (setParts fuel rest).map (part :: ·)
    | none =>
      match setCharacter? t with
      | none => .ok []
      | some (first, '-' :: rest) =>
        match setCharacter? rest with
        | none => .ok [.listed [first, '-']]
        | some (last, rest) =>
          if last.toNat < first.toNat then .error (.reversed first last)
          else
            let found := (List.range (last.toNat - first.toNat + 1)).map fun n =>
              Char.ofNat (first.toNat + n)
            (setParts fuel rest).map (.listed found :: ·)
      | some (c, rest) => (setParts fuel rest).map (.listed [c] :: ·)

/-- The characters of a set, `length` of them if one can be repeated as often as needed. -/
def setCharacters (length : Nat) (parts : List SetPart) : Text :=
  let size := (parts.map fun part =>
    match part with
    | .listed t => t.length
    | .repeated _ n => n).foldl (· + ·) 0
  parts.flatMap fun part =>
    match part with
    | .listed t => t
    | .repeated c 0 => List.replicate (length - size) c
    | .repeated c n => List.replicate n c

/-! ## Changes -/

/-- The characters without those that repeat the one before and are in a set. -/
def squeezed (set : Text) : Option Char → Text → Text
  | _, [] => []
  | last?, c :: r =>
    if last? = some c && set.elem c then squeezed set last? r else c :: squeezed set (some c) r

def replaced (source target : Text) (c : Char) : Char :=
  let index := source.reverse.findIdx (· = c)
  if index < source.length then
    let place := source.length - 1 - index
    (target[place]?).getD (target.getLast?.getD c)
  else c

def passCharacters (name : Text) (f : Text → Text) (squeezes : Text) : Act Nat := do
  let _ ← pieces 0 (none : Option Char) (fun last? piece => do
    let text := f piece
    let kept := squeezed squeezes last? text
    let _ ← write name kept
    return text.getLast?.or last?) Act.manyPieces
  return 0

def tr : Program := fun name arguments => do
  match Options.withLong "cCdst" (longOptions [("complement", 'c'), ("delete", 'd'),
      ("squeeze-repeats", 's'), ("truncate-set1", 't')] []) false none arguments with
  | .error fault => misuse 1 name (faultText fault)
  | .ok o => do
    let deletes := o.has 'd'
    let squeezes := o.has 's'
    let complains (text second : Text) : Act Nat := do
      complain name text
      Act.tell (second ++ ['\n'])
      misuse 1 name []
    let set? (t : Text) : Except SetFault (List SetPart) := setParts (t.length + 1) t
    let source (parts : List SetPart) : Text :=
      let listed := setCharacters 0 parts
      if o.has 'c' || o.has 'C' then allCharacters.filter fun c => !listed.elem c else listed
    match o.others.map set? with
    | [] => missing name
    | [.error fault] => do
      complain name fault.text
      return 1
    | [.ok parts] =>
      let set := source parts
      if deletes && squeezes then
        complains ("missing operand after " ++ quoted (o.others.headD []))
          "Two strings must be given when both deleting and squeezing repeats."
      else if deletes then passCharacters name (fun t => t.filter fun c => !set.elem c) []
      else if squeezes then passCharacters name (fun t => t) set
      else
        complains ("missing operand after " ++ quoted (o.others.headD []))
          "Two strings must be given when translating."
    | [.error fault, _] => do
      complain name fault.text
      return 1
    | [_, .error fault] => do
      complain name fault.text
      return 1
    | [.ok first, .ok second] =>
      let set := source first
      let target := setCharacters set.length second
      if deletes && !squeezes then
        complains ("extra operand " ++ quoted ((o.others[1]?).getD []))
          "Only one string may be given when deleting without squeezing repeats."
      else if deletes then passCharacters name (fun t => t.filter fun c => !set.elem c) target
      else if target.isEmpty && !o.has 't' then do
        complain name "when not truncating set1, string2 must be non-empty"
        return 1
      else
        let set := if o.has 't' then set.take target.length else set
        let table := allCharacters.map (replaced set target)
        passCharacters name (fun t => t.map fun c => (table[c.toNat]?).getD c)
          (if squeezes then target else [])
    | _ => extra name ((o.others[2]?).getD [])

end Program
end Shell
end ContractAssist
