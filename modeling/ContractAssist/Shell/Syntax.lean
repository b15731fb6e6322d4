import ContractAssist.Text.Octets

/-!
# Syntax — the commands of a shell

The language that tools and their stand-ins are written in. A script is a sequence of bytes; each
character of its texts stands for one byte.

* `Piece` is a part of a word, a word is a list of pieces;
* `Redirect` is a redirection of a channel;
* `Command` is what a script asks for.
-/

namespace ContractAssist
namespace Shell

inductive Fallback where
  | replace
  | assign
  | invert
  | fail
  deriving DecidableEq, Repr, Inhabited

inductive FileMode where
  | read
  -- for writing, from the start; files can be protected from it
  | write
  | clobber
  | append
  | both
  deriving DecidableEq, Repr, Inhabited

mutual

inductive Piece where
  | literal (quoted : Bool) (text : Text)
  | quoted (body : List Piece)
  | parameter (name : Text) (use : Use)
  | substitution (body : Option Command)
  | arithmetic (body : List Piece)

inductive Use where
  | plain
  | length
  -- with a word for the case that it has no value, or an empty one if `empty` is set
  | orElse (empty : Bool) (action : Fallback) (word : List Piece)
  | trimmed (front : Bool) (longest : Bool) (pattern : List Piece)
  | bad

inductive Redirect where
  | file (number : Nat) (mode : FileMode) (path : List Piece)
  -- to where another channel leads; a dash closes the channel
  | duplicate (number : Nat) (target : List Piece)
  -- to a text of the script; the shell keeps it by a number
  | here (number : Nat) (text : Nat)

inductive Command where
  | simple (line : Nat) (assignments words : List (List Piece)) (redirects : List Redirect)
  -- commands whose outputs are inputs of the next
  | pipeline (commands : List Command) (background : Bool)
  | redirected (line : Nat) (body : Command) (redirects : List Redirect)
  | background (line : Nat) (body : Command) (redirects : List Redirect)
  | subshell (line : Nat) (body : Command) (redirects : List Redirect)
  -- the second command after success of the first
  | both (first second : Command)
  -- the second command after failure of the first
  | either (first second : Command)
  | sequence (first second : Command)
  | inverse (body : Command)
  | branch (condition body : Command) (otherwise : Option Command)
  -- the body as long as the condition holds, or fails if `inverted` is set
  | loop (inverted : Bool) (condition body : Command)
  | each (line : Nat) (name : Text) (words : List (List Piece)) (body : Command)
  -- the body of the first arm with a pattern that matches the word
  | select (line : Nat) (subject : List Piece) (arms : List (List (List Piece) × Option Command))
  | define (name : Text) (body : Command)

end

abbrev Word := List Piece

instance : Inhabited Piece := ⟨.literal false []⟩

instance : Inhabited Redirect := ⟨.here 0 0⟩

instance : Inhabited Command := ⟨.simple 0 [] [] []⟩

namespace Word

/-- A word in reverse with one more character; neighbours of one kind are one piece. -/
def push (quoted : Bool) (c : Char) : Word → Word
  | .literal q t :: r => if q = quoted then .literal q (c :: t) :: r
    else .literal quoted [c] :: .literal q t :: r
  | r => .literal quoted [c] :: r

def ofReverse (w : Word) : Word :=
  w.foldl (fun word piece =>
    match piece with
    | .literal quoted text => .literal quoted text.reverse :: word
    | piece => piece :: word) []

def isQuoted (w : Word) : Bool :=
  w.any fun piece =>
    match piece with
    | .literal quoted _ => quoted
    | .quoted _ => true
    | _ => false

/-- The characters of a word that stand for themselves, whether they are quoted or not. -/
def characters : Nat → Word → Text
  | 0, _ => []
  | _, [] => []
  | depth + 1, .literal _ text :: r => text ++ characters depth r
  | depth + 1, .quoted body :: r => characters depth body ++ characters depth r
  | depth + 1, _ :: r => characters depth r

/-- The text of a word that consists of characters without quotes. -/
def plain? (w : Word) : Option Text :=
  match w with
  | [.literal false text] => some text
  | _ => none

end Word

def isNameStart (c : Char) : Bool :=
  c.isAlpha || c = '_'

def isNamePart (c : Char) : Bool :=
  c.isAlphanum || c = '_'

def isName (t : Text) : Bool :=
  match t with
  | [] => false
  | c :: r => isNameStart c && r.all isNamePart

/-- The name that an assignment begins with, and what follows its equals sign. -/
def assignment? (t : Text) : Option (Text × Text) :=
  let name := t.takeWhile isNamePart
  match t.drop name.length with
  | '=' :: value => if isName name then some (name, value) else none
  | _ => none

def Word.isAssignment (w : Word) : Bool :=
  match w with
  | .literal false text :: _ => (assignment? text).isSome
  | _ => false

end Shell
end ContractAssist
