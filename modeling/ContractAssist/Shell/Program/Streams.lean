import ContractAssist.Shell.Program.Basic

/-!
# Streams — programs that pass on what they read

* `Program.cat` passes on everything, perhaps with marks;
* `Program.head` and `Program.tail` pass on a part;
* `Program.tee` passes everything on to several files, `Program.wc` counts it.
-/

namespace ContractAssist
namespace Shell
namespace Program

/-! ## Everything -/

structure Marking where
  numbers : Bool
  -- have only lines a number that are not empty?
  onlyFilled : Bool
  -- is only one of several empty lines kept?
  squeezes : Bool
  ends : Bool
  tabs : Bool
  -- are other characters marked that cannot be seen?
  hidden : Bool
  deriving DecidableEq, Repr, Inhabited

namespace Marking

def isIdle (m : Marking) : Bool :=
  !(m.numbers || m.squeezes || m.ends || m.tabs || m.hidden)

def mark (m : Marking) (c : Char) : Text :=
  let control (n : Nat) : Text := ['^', Char.ofNat (n + 64)]
  let low (n : Nat) : Text :=
    if n < 32 then control n else if n = 127 then "^?" else [Char.ofNat n]
  if c = '\t' then (if m.tabs then "^I" else [c])
  else if !m.hidden then [c]
  else if c.toNat < 128 then low c.toNat
  else "M-" ++ low (c.toNat - 128)

def number (n : Nat) : Text :=
  List.leftpad 6 ' ' (Text.ofNat n) ++ ['\t']

/--
A text with its marks; `line` is the last number, and `breaks` is the number of line breaks since
the last character that is none.
-/
def apply (m : Marking) : Nat × Nat → Text → Text × (Nat × Nat)
  | state, [] => ([], state)
  | (line, breaks), c :: r =>
    let atStart := 0 < breaks
    if c = '\n' then
      if m.squeezes && 2 ≤ breaks then m.apply (line, breaks) r
      else
        let counts := atStart && m.numbers && !m.onlyFilled
        let line := if counts then line + 1 else line
        let (rest, state) := m.apply (line, breaks + 1) r
        ((if counts then number line else []) ++ (if m.ends then ['$'] else []) ++ '\n' :: rest,
          state)
    else
      let counts := atStart && m.numbers
      let line := if counts then line + 1 else line
      let (rest, state) := m.apply (line, 0) r
      let shown := if m.ends && c = '\r' && r.head? = some '\n' then ("^M" : Text) else m.mark c
      ((if counts then number line else []) ++ shown ++ rest, state)

def ofOptions (o : Options) : Marking where
  numbers := o.has 'n' || o.has 'b'
  onlyFilled := o.has 'b'
  squeezes := o.has 's'
  ends := o.has 'E' || o.has 'e' || o.has 'A'
  tabs := o.has 'T' || o.has 't' || o.has 'A'
  hidden := o.has 'v' || o.has 'e' || o.has 't' || o.has 'A'

end Marking

/-- Passes on files; with the state of the marks goes whether writing has failed. -/
def catAll (name : Text) (m : Marking) : (Nat × Nat) × Nat → List Text → Act Nat
  | (_, failed), [] => pure failed
  | state, path :: r => do
    let step (state : (Nat × Nat) × Nat) (piece : Text) : Act ((Nat × Nat) × Nat) := do
      if state.2 ≠ 0 then return state
      else
        let (text, marks) := if m.isIdle then (piece, state.1) else m.apply state.1 piece
        return (marks, ← write name text)
    let result ← if ← isDirectory path then pure (.error .isADirectory)
      else reading path fun number => pieces number state step Act.manyPieces
    match result with
    | .ok state => if state.2 ≠ 0 then return state.2 else catAll name m state r
    | .error e => do
      complainOf name path e
      return max 1 (← catAll name m state r)

def cat : Program :=
  withOptions 1 "AbeEnstTuv" (longOptions [("show-all", 'A'), ("number-nonblank", 'b'),
    ("show-ends", 'E'), ("number", 'n'), ("squeeze-blank", 's'), ("show-tabs", 'T'),
    ("show-nonprinting", 'v')] []) fun name o =>
      catAll name (Marking.ofOptions o) ((0, 1), 0) (inputs o.others)

/-! ## Parts -/

structure Part where
  lines : Bool
  count : Nat
  -- are they counted from the other end?
  reverse : Bool
  deriving DecidableEq, Repr, Inhabited

/-- So many lines, or as many as there are; the number that is missing. -/
def takeLines (ending : Char) : Nat → Text → Text × Nat
  | 0, _ => ([], 0)
  | n + 1, [] => ([], n + 1)
  | n + 1, c :: r =>
    let (taken, left) := takeLines ending (if c = ending then n else n + 1) r
    (c :: taken, left)

def takePart (ending : Char) (lines : Bool) (count : Nat) (t : Text) : Text × Nat :=
  if lines then takeLines ending count t else (t.take count, count - t.length)

def blockSize : Nat := 8192

/-- Reads the first part of a file, and not more; the characters are collected in reverse. -/
def takeSlowly (ending : Char) (number : Nat) (lines : Bool) : Nat → Nat → Text → Act Text
  | 0, _, sofar => pure sofar.reverse
  | _, 0, sofar => pure sofar.reverse
  | fuel + 1, count + 1, sofar => do
    match ← Act.hear number 1 with
    | [c] =>
      let left := if lines && c ≠ ending then count + 1 else count
      takeSlowly ending number lines fuel left (c :: sofar)
    | _ => return sofar.reverse

def passPart (name : Text) (ending : Char) (number : Nat) (lines : Bool) : Nat → Nat → Act Unit
  | 0, _ => pure ()
  | _, 0 => pure ()
  | fuel + 1, count + 1 => do
    let limit := if lines then blockSize else min (count + 1) blockSize
    let piece ← Act.hear number limit
    if piece.isEmpty then pure ()
    else
      let (text, left) := takePart ending lines (count + 1) piece
      let _ ← write name text
      passPart name ending number lines fuel left

/-- Passes on the part of what is read that comes first. -/
def passHead (name : Text) (ending : Char) (part : Part) (number : Nat) : Act Unit := do
  if part.reverse then
    let text ← Act.hearAll number
    let kept := if part.lines then
        let lines := linesOf ending text
        (lines.take (lines.length - part.count)).flatten
      else text.take (text.length - part.count)
    let _ ← write name kept
  else
    match (← Act.get).channel? number with
    | some (.file _) =>
      let text ← takeSlowly ending number part.lines Act.manyPieces part.count []
      let _ ← write name text
    | _ => passPart name ending number part.lines Act.manyPieces part.count

/-- Passes on the part of what is read that comes last. -/
def passTail (name : Text) (ending : Char) (part : Part) (number : Nat) : Act Unit := do
  let text ← Act.hearAll number
  let from' (length : Nat) : Nat := if part.reverse then part.count - 1 else length - part.count
  let kept := if part.lines then
      let lines := linesOf ending text
      (lines.drop (from' lines.length)).flatten
    else text.drop (from' text.length)
  let _ ← write name kept

/-- Passes on a part of each of some files; `isFirst` if no name was shown before. -/
def passAll (name : Text) (pass : Nat → Act Unit) (titled : Bool) : Bool → List Text → Act Nat
  | _, [] => pure 0
  | isFirst, path :: r => do
    let title : Text := if path = dash then "standard input" else path
    let start : Act Unit := do
      if titled then
        let _ ← write name ((if isFirst then [] else ['\n']) ++ "==> " ++ title ++ " <==\n")
    if ← isDirectory path then
      start
      complain name ("error reading " ++ shellQuoted path ++ ": " ++ IoError.isADirectory.text)
      return max 1 (← passAll name pass titled false r)
    else
      match ← reading path (fun number => do start; pass number) with
      | .ok _ => passAll name pass titled false r
      | .error e => do
        complain name ("cannot open " ++ shellQuoted path ++ " for reading: " ++ e.text)
        return max 1 (← passAll name pass titled isFirst r)

/-- The part that an option asks for; `sign` stands before a number counted from the other end. -/
def partOf? (sign : Char) (o : Options) : Except Text Part :=
  match o.given.reverse.find? fun g => g.letter = 'n' || g.letter = 'c' with
  | none => .ok ⟨true, 10, false⟩
  | some g =>
    let (reverse, digits) : Bool × Text := match g.argument with
      | '+' :: r => (sign = '+', r)
      | '-' :: r => (sign = '-', r)
      | t => (false, t)
    match amount? digits with
    | some n => .ok ⟨g.letter = 'n', n, reverse⟩
    | none =>
      let what : Text := if g.letter = 'n' then "lines" else "bytes"
      .error ("invalid number of " ++ what ++ ": " ++ quoted
        (if g.argument.head? = some '+' && sign = '-' then g.argument else
          if reverse then digits else g.argument))

/-- Arguments in which a number after a dash, or after the other sign, stands for an option. -/
def withNumber (sign : Char) (arguments : List Text) : List Text :=
  match arguments with
  | (c :: d :: r) :: others =>
    if (c = '-' || c = sign) && d.isDigit && (d :: r).all Char.isDigit then
      "-n" :: (if c = '+' then c :: d :: r else d :: r) :: others
    else arguments
  | _ => arguments

def passing (sign : Char) (pass : Text → Char → Part → Nat → Act Unit) : Program :=
  fun name arguments =>
    withOptions 1 "n:c:qvzfF" (longOptions [("quiet", 'q'), ("silent", 'q'), ("verbose", 'v'),
      ("zero-terminated", 'z'), ("follow", 'f')] [("lines", 'n'), ("bytes", 'c')])
      (fun name o =>
        match partOf? sign o with
        | .error fault => do
          complain name fault
          return 1
        | .ok part => do
          let paths := inputs o.others
          let titled := match o.last? ['q', 'v'] with
            | some 'q' => false
            | some _ => true
            | none => 1 < paths.length
          let ending := if o.has 'z' then '\x00' else '\n'
          let status ← passAll name (pass name ending part) titled true paths
          if o.has 'f' || o.has 'F' then Act.rest .longest
          return status)
      name (withNumber sign arguments)

def head : Program := passing '-' passHead

def tail : Program := passing '+' passTail

/-! ## Copies -/

/-- Writes to files as well; their channels have the numbers from `fileChannel` on. -/
def copyTo (name : Text) : List (Nat × Text) → Text → Act Nat
  | [], _ => pure 0
  | (number, path) :: r, text => do
    let status ← match ← Act.say number text with
      | none => pure 0
      | some e => do
        complainOf name path e
        pure 1
    return max status (← copyTo name r text)

/-- Opens files for writing: their numbers and paths, and the status. -/
def openAll (name : Text) (mode : FileMode) : Nat → List Text → Act (List (Nat × Text) × Nat)
  | _, [] => pure ([], 0)
  | number, path :: r => do
    match ← Act.openPath mode path with
    | .ok channel => do
      Act.modify fun s => s.redirect number (some channel)
      let (others, status) ← openAll name mode (number + 1) r
      return ((number, path) :: others, status)
    | .error e => do
      complainOf name path e
      let (others, status) ← openAll name mode number r
      return (others, max 1 status)

def tee : Program :=
  withOptions 1 "aip" (longOptions [("append", 'a'), ("ignore-interrupts", 'i')] [])
    fun name o => do
      let mode := if o.has 'a' then .append else .clobber
      let (targets, status) ← openAll name mode fileChannel o.others
      pieces 0 status (fun status piece => do
        let written ← write name piece
        return max (max status written) (← copyTo name targets piece)) Act.manyPieces

/-! ## Counts -/

structure Count where
  lines : Nat
  words : Nat
  size : Nat
  width : Nat
  deriving DecidableEq, Repr, Inhabited

namespace Count

/-- Counts the words; `inside` if the text goes on with a word. -/
def countWords : Bool → Text → Nat
  | _, [] => 0
  | inside, c :: r =>
    let isGap := c = ' ' || (9 ≤ c.toNat && c.toNat ≤ 13)
    (if !inside && !isGap then 1 else 0) + countWords (!isGap) r

def column (n : Nat) (c : Char) : Nat :=
  if c = '\t' then n + (8 - n % 8) else if 32 ≤ c.toNat && c.toNat < 127 then n + 1 else n

def ofText (t : Text) : Count where
  lines := t.count '\n'
  words := countWords false t
  size := t.length
  width := (linesOf '\n' t).foldl (fun n line => max n ((bodyOf '\n' line).foldl column 0)) 0

def add (a b : Count) : Count :=
  ⟨a.lines + b.lines, a.words + b.words, a.size + b.size, max a.width b.width⟩

def chosen (o : Options) (c : Count) : List Nat :=
  let isAny := o.given.any fun g => "lwcmL".toList.elem g.letter
  (if o.has 'l' || !isAny then [c.lines] else []) ++ (if o.has 'w' || !isAny then [c.words] else [])
    ++ (if o.has 'm' then [c.size] else []) ++ (if o.has 'c' || !isAny then [c.size] else [])
    ++ (if o.has 'L' then [c.width] else [])

def line (o : Options) (width : Nat) (c : Count) (name? : Option Text) : Text :=
  Text.joinWith " " ((c.chosen o).map fun n => List.leftpad width ' ' (Text.ofNat n))
    ++ (name?.elim [] fun name => ' ' :: name) ++ "\n"

end Count

/-- Counts what is in each file, or says why that cannot be read. -/
def countAll : List Text → Act (List (Text × Except IoError Count))
  | [] => pure []
  | path :: r => do
    let found ← contentOf path
    return (path, found.map Count.ofText) :: (← countAll r)

/-- The size that decides about the width of numbers; without one the width is the usual. -/
def regularSize? (path : Text) : Except IoError Count → Act (Option Nat)
  | .ok c => do
    let isFile ← if path = dash then
        match (← Act.get).channel? 0 with
        | some (.file _) => pure true
        | _ => pure false
      else pure ((← Act.tree).isFile (toText path))
    return if isFile then some c.size else none
  | .error .isADirectory => pure none
  | .error _ => pure (some 0)

/-- Shows counts; the answer is their sum. -/
def showCounts (name : Text) (o : Options) (width : Nat) :
    Count → List (Text × Except IoError Count) → Act (Count × Nat)
  | sum, [] => pure (sum, 0)
  | sum, (path, .ok c) :: r => do
    let title := if path = dash && o.others.isEmpty then none else some (shown path)
    let _ ← write name (c.line o width title)
    showCounts name o width (sum.add c) r
  | sum, (path, .error e) :: r => do
    complainOf name path e
    if e = .isADirectory then
      let _ ← write name ((⟨0, 0, 0, 0⟩ : Count).line o width (some (shown path)))
    return ((← showCounts name o width sum r).1, 1)

def wc : Program :=
  withOptions 1 "clLmw" (longOptions [("bytes", 'c'), ("chars", 'm'), ("lines", 'l'),
    ("words", 'w'), ("max-line-length", 'L')] []) fun name o => do
      let counts ← countAll (inputs o.others)
      let sizes ← counts.mapM fun c => regularSize? c.1 c.2
      let isNarrow := counts.length = 1 && ((⟨0, 0, 0, 0⟩ : Count).chosen o).length = 1
      let total := (sizes.map fun n => n.getD 0).foldl (· + ·) 0
      let least := if sizes.any Option.isNone then 7 else 1
      let width := if isNarrow then 1 else max (Text.ofNat total).length least
      let (sum, status) ← showCounts name o width ⟨0, 0, 0, 0⟩ counts
      if 1 < counts.length then
        let _ ← write name (sum.line o width (some "total"))
      return status

end Program
end Shell
end ContractAssist
