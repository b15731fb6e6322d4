import ContractAssist.Shell.Syntax

/-!
# Reading — a script that is being read

* `Token` is a unit of the grammar;
* `Reading` is what is known between two tokens: the rest of the text, the line, the last token, the
  texts that are still due;
* `Parser` is an action on a reading that may fail;
* `Parser.next?` and its companions read single characters.

A reading can be open: more text may come. Who comes to the end of such a text is told to try again.
-/

namespace ContractAssist
namespace Shell

inductive Token where
  | ending
  | newline
  | semicolon
  | ampersand
  | both
  | either
  | pipe
  | opening
  | closing
  | armEnd
  | redirection
  | word
  | keyword (name : Text)
  deriving DecidableEq, Repr, Inhabited

namespace Token

def keywords : List Text :=
  (["!", "case", "do", "done", "elif", "else", "esac", "fi", "for", "if", "in", "then", "until",
    "while", "\x7b", "\x7d"] : List String).map String.toList

def inQuotes (t : Text) : Text :=
  "\"" ++ t ++ "\""

def name : Token → Text
  | ending => "end of file"
  | newline => "newline"
  | semicolon => inQuotes ";"
  | ampersand => inQuotes "&"
  | both => inQuotes "&&"
  | either => inQuotes "||"
  | pipe => inQuotes "|"
  | opening => inQuotes "("
  | closing => inQuotes ")"
  | armEnd => inQuotes ";;"
  | redirection => "redirection"
  | word => "word"
  | keyword t => inQuotes t

def closers : List Text :=
  (["do", "done", "elif", "else", "esac", "fi", "then", "\x7d"] : List String).map String.toList

def endsList : Token → Bool
  | ending => true
  | closing => true
  | armEnd => true
  | keyword t => closers.contains t
  | _ => false

end Token

inductive RedirectHead where
  | file (number : Nat) (mode : FileMode)
  | duplicate (number : Nat)
  -- of one to a text; does it begin with tabs that do not count?
  | here (number : Nat) (indented : Bool)
  deriving DecidableEq, Repr, Inhabited

structure Checks where
  newlines : Bool
  keywords : Bool
  aliases : Bool
  -- it is the end mark of a text, in which nothing is expanded
  marks : Bool
  deriving DecidableEq, Repr, Inhabited

namespace Checks

def none : Checks := ⟨false, false, false, false⟩

def command : Checks := ⟨false, true, true, false⟩

def anyLine : Checks := ⟨true, true, true, false⟩

end Checks

/-- A text that an alias was replaced by. -/
structure Unfolding where
  name : Text
  after : Nat
  blank : Bool
  deriving DecidableEq, Repr, Inhabited

/-- A text of a script that is still to be read. -/
structure DueText where
  number : Nat
  mark : Text
  -- do tabs in front of its lines not count?
  indented : Bool
  plain : Bool
  deriving DecidableEq, Repr, Inhabited

structure Reading where
  rest : Text
  line : Nat
  isOpen : Bool
  aliases : List (Text × Text)
  -- the texts that aliases were replaced by and that are being read
  unfolding : List Unfolding
  -- is the last token read again?
  isHeld : Bool
  last : Token
  word : Word
  head : RedirectHead
  checks : Checks
  due : List DueText
  texts : List (Nat × Word)
  made : Nat

namespace Reading

def new (text : Text) (line : Nat) (isOpen : Bool) (aliases : List (Text × Text)) (made : Nat) :
    Reading where
  rest := text
  line := line
  isOpen := isOpen
  aliases := aliases
  unfolding := []
  isHeld := false
  last := .newline
  word := []
  head := .here 0 false
  checks := .none
  due := []
  texts := []
  made := made

end Reading

inductive Unreadable where
  | unfinished
  | wrong (line : Nat) (reason : Text)
  deriving DecidableEq, Repr, Inhabited

abbrev Parser (α : Type) := StateT Reading (Except Unreadable) α

namespace Parser

def wrong {α : Type} (reason : Text) : Parser α := do
  throw (.wrong (← get).line reason)

/-- The last token is wrong; perhaps another is wanted. -/
def unexpected {α : Type} (wanted : Option Token) : Parser α := do
  let found := (← get).last.name ++ " unexpected"
  match wanted with
  | some token => wrong (found ++ " (expecting " ++ token.name ++ ")")
  | none => wrong found

/-! ## Characters -/

def next? : Parser (Option Char) := do
  let r ← get
  match r.rest with
  | c :: rest =>
    set { r with rest := rest }
    return some c
  | [] => if r.isOpen then throw .unfinished else return none

/-- The text after line ends that a backslash takes away, and the number of its line. -/
def joined (line : Nat) : Text → Text × Nat
  | '\\' :: '\n' :: r => joined (line + 1) r
  | t => (t, line)

/-- Reads a character; a backslash and a line end after it are none. -/
def nextJoined? : Parser (Option Char) := do
  let r ← get
  let (rest, line) := joined r.line r.rest
  if r.isOpen && rest = ['\\'] then throw .unfinished
  set { r with rest := rest, line := line }
  next?

def peekJoined? : Parser (Option Char) := do
  match ← nextJoined? with
  | some c =>
    modify fun r => { r with rest := c :: r.rest }
    return some c
  | none => return none

def unread (c : Char) : Parser Unit :=
  modify fun r => { r with rest := c :: r.rest }

def endLine : Parser Unit :=
  modify fun r => { r with line := r.line + 1 }

def skipIf (c : Char) : Parser Bool := do
  if (← peekJoined?) = some c then
    let _ ← nextJoined?
    return true
  else return false

/-- Reads characters as long as they satisfy a condition; `fuel` bounds their number. -/
def takeWhile (holds : Char → Bool) : Nat → Text → Parser Text
  | 0, taken => return taken.reverse
  | fuel + 1, taken => do
    match ← peekJoined? with
    | some c =>
      if holds c then
        let _ ← nextJoined?
        takeWhile holds fuel (c :: taken)
      else return taken.reverse
    | none => return taken.reverse

/-- Skips a comment; `fuel` bounds its length. -/
def skipComment : Nat → Parser Unit
  | 0 => return ()
  | fuel + 1 => do
    match ← next? with
    | some '\n' => unread '\n'
    | some _ => skipComment fuel
    | none => return ()

/-- Reads up to a single quote; `fuel` bounds the number of characters. -/
def untilQuote : Nat → Word → Parser Word
  | 0, sofar => return sofar
  | fuel + 1, sofar => do
    match ← next? with
    | none => wrong "Unterminated quoted string"
    | some '\'' => return sofar
    | some c =>
      if c = '\n' then endLine
      untilQuote fuel (Word.push true c sofar)

/-- Reads the text of old-style command quotes; `fuel` bounds its length. -/
def untilBackquote (double : Bool) : Nat → Text → Parser Text
  | 0, sofar => return sofar.reverse
  | fuel + 1, sofar => do
    match ← nextJoined? with
    | none => wrong "EOF in backquote substitution"
    | some '\x60' => return sofar.reverse
    | some '\\' =>
      match ← next? with
      | none => wrong "EOF in backquote substitution"
      | some c =>
        let plain := c = '\\' || c = '\x60' || c = '$' || (double && c = '"')
        untilBackquote double fuel (if plain then c :: sofar else c :: '\\' :: sofar)
    | some c =>
      if c = '\n' then endLine
      untilBackquote double fuel (c :: sofar)

/-! ## Texts of a script -/

/-- A line with the end that it has, and what follows it; without an end there may be more. -/
def cutLine (t : Text) : Text × Text :=
  let line := t.takeWhile (· ≠ '\n')
  (t.take (line.length + 1), t.drop (line.length + 1))

def continues (line : Text) : Bool :=
  match line.reverse with
  | '\n' :: r => (r.takeWhile (· = '\\')).length % 2 = 1
  | _ => false

/-- A text of a script up to its end mark, what follows it, and whether the mark was found. -/
structure CutText where
  text : Text
  rest : Text
  lines : Nat
  found : Bool
  deriving DecidableEq, Repr, Inhabited

/-- Cuts a text of a script off; `fuel` bounds the number of lines, `fresh` says that one begins. -/
def cutText (d : DueText) : Nat → Bool → Text → CutText
  | 0, _, t => ⟨[], t, 0, false⟩
  | _, _, [] => ⟨[], [], 0, false⟩
  | fuel + 1, fresh, t =>
    let (line, rest) := cutLine t
    let shown := if fresh && d.indented then line.dropWhile (· = '\t') else line
    if fresh && shown.takeWhile (· ≠ '\n') = d.mark then ⟨[], rest, 1, true⟩
    else
      let others := cutText d fuel (d.plain || !continues line) rest
      { others with text := shown ++ others.text, lines := others.lines + 1 }

end Parser

end Shell
end ContractAssist
