import ContractAssist.Toml.Quoted
import ContractAssist.Toml.Scalar

/-!
# Document — reading TOML

A document is a sequence of lines: a key with its value, a header that opens a table, a comment, or
nothing. Readers take a text and give what they read and the rest of the text. Values may nest, so
their readers count how deep they are.

* `Document.value?` reads a value, `Document.keys?` a dotted key;
* `Toml.parse?` reads a document and gives the members of its root table.
-/

namespace ContractAssist
namespace Toml
namespace Document

/-- Values must not nest as deep as this, nor keys have so many parts. -/
def depthLimit : Nat := 80

/-! ## Blanks, comments, line ends -/

def dropComment : Text → Text
  | '#' :: r => r.dropWhile Quoted.isPlain
  | t => t

/-- Drops a line break, or accepts the end of the text. -/
def lineEnd? : Text → Option Text
  | [] => some []
  | '\n' :: r => some r
  | '\r' :: '\n' :: r => some r
  | _ => none

def trailing? (t : Text) : Option Text :=
  lineEnd? (dropComment (Quoted.dropBlanks t))

/-- Drops blanks, line breaks and comments between the elements of an array. -/
def dropFiller (inComment : Bool) : Text → Option Text
  | [] => some []
  | '\n' :: r => dropFiller false r
  | '\r' :: '\n' :: r => dropFiller false r
  | c :: r =>
    if inComment then (if Quoted.isPlain c then dropFiller true r else none)
    else if c = '#' then dropFiller true r
    else if c = ' ' ∨ c = '\t' then dropFiller false r
    else some (c :: r)

/-! ## Keys -/

def isKeyChar (c : Char) : Bool :=
  c.isAlphanum || c == '_' || c == '-'

def keyPart? : Text → Option (Text × Text)
  | '"' :: r => Quoted.basic? (r.length + 1) r
  | '\'' :: r => Quoted.literal? r
  | t =>
    let name := t.takeWhile isKeyChar
    if name.isEmpty then none else some (name, t.drop name.length)

/-- Reads a dotted key of at most `fuel` parts: its parts, and the rest after blanks. -/
def keys? : Nat → Text → Option (List Text × Text)
  | 0, _ => none
  | fuel + 1, t =>
    (keyPart? (Quoted.dropBlanks t)).bind fun (part, r) =>
      match Quoted.dropBlanks r with
      | '.' :: r' => (keys? fuel r').map fun (parts, rest) => (part :: parts, rest)
      | rest => some ([part], rest)

def splitLast (parts : List Text) : List Text × Text :=
  (parts.dropLast, parts.getLast?.getD [])

/-- Reads a dotted key and gives the path to its table, its last part, and the rest. -/
def key? (t : Text) : Option (List Text × Text × Text) :=
  (keys? (depthLimit - 1) t).map fun (parts, rest) =>
    ((splitLast parts).1, (splitLast parts).2, rest)

/-! ## Values -/

/-- Reads a value without quotation marks; a date takes a time after one blank along. -/
def scalar? (t : Text) : Option (Value × Text) :=
  let word := t.takeWhile Scalar.isWordChar
  let rest := t.drop word.length
  match rest with
  | ' ' :: r =>
    let time := r.takeWhile Scalar.isWordChar
    if Scalar.isDate word && Scalar.isTime true time then some (.dateTime, r.drop time.length)
    else (Scalar.ofWord? word).map fun v => (v, rest)
  | _ => (Scalar.ofWord? word).map fun v => (v, rest)

def string? : Text → Option (Text × Text)
  | '"' :: '"' :: '"' :: r => Quoted.basicLines? (r.length + 1) (Quoted.dropBreak r)
  | '\'' :: '\'' :: '\'' :: r => Quoted.literalLines? (r.length + 1) (Quoted.dropBreak r)
  | '"' :: r => Quoted.basic? (r.length + 1) r
  | '\'' :: r => Quoted.literal? r
  | _ => none

mutual

/-- Reads a value; `fuel` bounds the number of steps, `depth` counts what is open around it. -/
def value? (fuel depth : Nat) (t : Text) : Option (Value × Text) :=
  match fuel with
  | 0 => none
  | fuel + 1 =>
    match t with
    | '"' :: _ => (string? t).map fun (s, r) => (.string s, r)
    | '\'' :: _ => (string? t).map fun (s, r) => (.string s, r)
    | '[' :: r =>
      if depth + 1 < depthLimit then
        (elements? fuel (depth + 1) r).map fun (vs, r') => (.array vs, r')
      else none
    | '\x7b' :: r =>
      if depth + 1 < depthLimit then
        match Quoted.dropBlanks r with
        | '\x7d' :: r' => some (.table [], r')
        | r' =>
          (inlineMembers? fuel (depth + 1) [] r').map fun (ms, r'') =>
            (.table (Members.toValues ms), r'')
      else none
    | t => scalar? t

def elements? (fuel depth : Nat) (t : Text) : Option (List Value × Text) :=
  match fuel with
  | 0 => none
  | fuel + 1 =>
    match dropFiller false t with
    | some (']' :: r) => some ([], r)
    | some r =>
      (value? fuel depth r).bind fun (v, r') =>
        match dropFiller false r' with
        | some (']' :: r'') => some ([v], r'')
        | some (',' :: r'') => (elements? fuel depth r'').map fun (vs, rest) => (v :: vs, rest)
        | _ => none
    | none => none

def inlineMembers? (fuel depth : Nat) (done : Members) (t : Text) : Option (Members × Text) :=
  match fuel with
  | 0 => none
  | fuel + 1 =>
    (key? t).bind fun (path, key, r) =>
      match r with
      | '=' :: r' =>
        (value? fuel depth (Quoted.dropBlanks r')).bind fun (v, r'') =>
          (Members.insert? path key v done).bind fun done' =>
            match Quoted.dropBlanks r'' with
            | '\x7d' :: rest => some (done', rest)
            | ',' :: rest => inlineMembers? fuel depth done' rest
            | _ => none
      | _ => none

end

/-! ## Lines -/

structure State where
  root : Members
  -- the path of the header that was read last
  opened : List Text
  deriving Repr, Inhabited

def member? (s : State) (t : Text) : Option (State × Text) :=
  (key? t).bind fun (path, key, r) =>
    match r with
    | '=' :: r' =>
      (value? (r'.length + 1) 0 (Quoted.dropBlanks r')).bind fun (v, r'') =>
        (trailing? r'').bind fun rest =>
          (Members.insertAt? s.opened path key v s.root).map fun root => ({ s with root }, rest)
    | _ => none

def header? (s : State) (t : Text) : Option (State × Text) :=
  match t with
  | '[' :: r =>
    (key? r).bind fun (path, key, r') =>
      match r' with
      | ']' :: ']' :: r'' =>
        (trailing? r'').bind fun rest =>
          (Members.openElement? path key s.root).map fun root => (⟨root, path ++ [key]⟩, rest)
      | _ => none
  | r =>
    (key? r).bind fun (path, key, r') =>
      match r' with
      | ']' :: r'' =>
        (trailing? r'').bind fun rest =>
          (Members.openTable? path key s.root).map fun root => (⟨root, path ++ [key]⟩, rest)
      | _ => none

def line? (s : State) (t : Text) : Option (State × Text) :=
  match t with
  | '#' :: _ => (lineEnd? (dropComment t)).map fun rest => (s, rest)
  | '\n' :: _ => (lineEnd? t).map fun rest => (s, rest)
  | '\r' :: _ => (lineEnd? t).map fun rest => (s, rest)
  | '[' :: r => header? s r
  | t => member? s t

def lines? : Nat → State → Text → Option State
  | 0, _, _ => none
  | fuel + 1, s, t =>
    match Quoted.dropBlanks t with
    | [] => some s
    | r => (line? s r).bind fun (s', rest) => lines? fuel s' rest

end Document

/-- Reads a document, with or without a byte order mark: the members of its root table. -/
def parse? (t : Text) : Option (List (Text × Value)) :=
  let body := match t with
    | '\uFEFF' :: r => r
    | t => t
  (Document.lines? (body.length + 1) ⟨[], []⟩ body).map fun s => Members.toValues s.root

end Toml
end ContractAssist
