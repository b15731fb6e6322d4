import ContractAssist.Text.Basic

/-!
# LogLine — diagnostic messages

* `LogLine` is a message with named values;
* `LogLine.render` writes it on one line;
* `LogFilter.ofVerbosity` says which messages are wanted.
-/

namespace ContractAssist

inductive LogLevel where
  | info
  | warn
  deriving DecidableEq, Repr, Inhabited

def LogLevel.name : LogLevel → Text
  | info => "INFO"
  | warn => "WARN"

structure LogLine where
  level : LogLevel
  message : Text
  fields : List (Text × Text)
  deriving DecidableEq, Repr, Inhabited

namespace LogLine

def renderField (field : Text × Text) : Text :=
  " " ++ field.1 ++ "=" ++ field.2

/--
A character of a message. Those that could steer a terminal are shown by their code points: some
controls, delete, and the controls above it.
-/
def renderChar (c : Char) : Text :=
  if c = '\x07' then "\\x07"
  else if c = '\x08' then "\\x08"
  else if c = '\x0c' then "\\x0c"
  else if c = '\x1b' then "\\x1b"
  else if c = '\x7f' then "\\x7f"
  else if 0x80 ≤ c.toNat ∧ c.toNat ≤ 0x9F then
    ['\\', 'u', '\x7b'] ++ Nat.toDigits 16 c.toNat ++ ['\x7d']
  else [c]

def render (l : LogLine) : Text :=
  l.level.name ++ " " ++ l.message.flatMap renderChar ++ l.fields.flatMap renderField

end LogLine

/-- The filter for so many requests to be verbose. -/
def LogFilter.ofVerbosity : Nat → Text
  | 0 => "warn"
  | 1 => "genvm_assist=info,warn"
  | 2 => "genvm_assist=debug,info"
  | _ => "trace"

end ContractAssist
