import ContractAssist.Text.Utf8

/-!
# Console — what a user sees and types

* `Console` has an input, two outputs, and perhaps a terminal where secrets are typed;
* `Console.readLine` takes a line from the input;
* `Console.print` and `Console.complain` write to the outputs;
* `Entry.read` reads a secret that is typed without being shown.
-/

namespace ContractAssist

/-! ## Secrets -/

inductive Entry where
  -- a line was typed; `left` was typed after it
  | accepted (secret left : Text)
  | aborted (left : Text)
  -- the end of the line has not been typed yet
  | unfinished
  deriving DecidableEq, Repr, Inhabited

/-- Where a reader stands in a key that is sent as several characters. -/
inductive KeyPlace where
  | between
  | escape
  -- after an escape character and a bracket; a character from `@` to `~` ends the key
  | control
  -- after an escape character and the letter O; one more character ends the key
  | single
  deriving DecidableEq, Repr, Inhabited

structure Draft where
  -- the characters so far, the last one first
  entered : Text
  -- so many characters are believed to be shown
  counted : Nat
  echo : Text
  deriving DecidableEq, Repr, Inhabited

namespace Draft

def empty : Draft := ⟨[], 0, []⟩

/-- Takes back what is believed to be shown beyond so many characters. -/
def wipe (d : Draft) (count : Nat) : Draft :=
  { d with
    counted := min d.counted count
    echo := d.echo ++ (List.replicate (d.counted - count) ("\x08 \x08" : Text)).flatten }

def back (d : Draft) : Draft :=
  { d with entered := d.entered.tail }.wipe d.entered.tail.length

/-- Takes the last word back, and the blanks after it; what is left is believed to be shown. -/
def backWord (d : Draft) : Draft :=
  let left := (d.entered.dropWhile isBlank).dropWhile fun c => !isBlank c
  { { d with entered := left }.wipe left.length with counted := left.length }

def clear (d : Draft) : Draft :=
  { d with entered := [] }.wipe 0

def isControl (c : Char) : Bool :=
  c.toNat < 0x20 || (0x7F ≤ c.toNat && c.toNat ≤ 0x9F)

/-- Types a key that does not end the line; a control key without a meaning does nothing. -/
def type (d : Draft) (c : Char) : Draft :=
  if c = '\x7f' || c = '\x08' then d.back
  else if c = '\x15' then d.clear
  else if c = '\x17' then d.backWord
  else if isControl c then d
  else { d with entered := c :: d.entered }

end Draft

namespace Entry

/--
Reads what is typed. A line end or a return ends the line, the end of transmission breaks off an
empty one, and keys that are sent as several characters do nothing.
-/
def readFrom (d : Draft) : KeyPlace → Text → Entry × Text
  | _, [] => (unfinished, d.echo)
  | .between, c :: r =>
    if c = '\n' || c = '\r' then (accepted d.entered.reverse r, d.echo)
    -- on a line that is not empty, the end of transmission is a control key without a meaning
    else if c = '\x04' && d.entered.isEmpty then (aborted r, d.echo)
    else if c = '\x1b' then readFrom d .escape r
    else readFrom (d.type c) .between r
  | .escape, c :: r =>
    readFrom d (if c = '[' then .control else if c = 'O' then .single else .between) r
  | .control, c :: r => readFrom d (if '@' ≤ c && c ≤ '~' then .between else .control) r
  | .single, _ :: r => readFrom d .between r

/-- Reads a secret; the second part is what is written to the terminal meanwhile. -/
def read (typed : Text) : Entry × Text :=
  readFrom .empty .between typed

end Entry

/-! ## Consoles -/

/-- A terminal where a user types each time a label is shown. -/
structure TypingTerminal where
  -- what has been shown, the latest first
  shown : List Text
  -- what will be typed, one text for each label
  replies : List Text
  -- what has been typed and not yet read
  typed : Text
  deriving DecidableEq, Repr, Inhabited

structure Console where
  input : Bytes
  -- what was printed, the latest first
  printed : List Text
  complaints : List Text
  -- complaints are no longer seen once they end with this text
  complaintsEnd : Option Text
  terminal : Option TypingTerminal
  deriving DecidableEq, Repr, Inhabited

namespace Console

def output (c : Console) : Text :=
  c.printed.reverse.flatten

def diagnostics (c : Console) : Text :=
  c.complaints.reverse.flatten

def hears (c : Console) : Bool :=
  match c.complaintsEnd with
  | none => true
  | some mark => !mark.isSuffixOf c.diagnostics

def print (c : Console) (t : Text) : Console :=
  { c with printed := t :: c.printed }

/-- Complains; nothing happens if complaints are no longer seen. -/
def complain (c : Console) (t : Text) : Console :=
  if c.hears then { c with complaints := t :: c.complaints } else c

@[simp] theorem complain_input (c : Console) (t : Text) : (c.complain t).input = c.input := by
  unfold complain
  split <;> rfl

/-- Complains of one thing after another, as long as complaints are seen; were they all? -/
def complainAll (c : Console) : List Text → Bool × Console
  | [] => (true, c)
  | t :: r => if c.hears then (c.complain t).complainAll r else (false, c)

/-- Reads a line of the input, an empty one at its end. -/
def readLine (c : Console) : Bytes × Console :=
  ((Utf8.firstLine c.input).1, { c with input := (Utf8.firstLine c.input).2 })

/-- A line that is read is no longer in the input. -/
theorem length_readLine_lt {c : Console} (h : c.readLine.1 ≠ []) :
    c.readLine.2.input.length < c.input.length := by
  obtain ⟨input⟩ := c
  cases input with
  | nil => exact absurd rfl h
  | cons b r => exact Utf8.length_firstLine_lt b r

end Console

namespace TypingTerminal

def showLabel (t : TypingTerminal) (label : Text) : TypingTerminal :=
  { t with
    shown := label :: t.shown
    replies := t.replies.tail
    typed := t.typed ++ t.replies.headD [] }

/-- Shows a label and reads a secret, after which a new line begins. -/
def askSecret (t : TypingTerminal) (label : Text) : Entry × TypingTerminal :=
  let t := t.showLabel label
  let (entry, echo) := Entry.read t.typed
  let t := { t with shown := echo :: t.shown }
  match entry with
  | .accepted secret left =>
    (.accepted secret left, { t with shown := "\r\n" :: t.shown, typed := left })
  | .aborted left => (.aborted left, { t with typed := left })
  | .unfinished => (.unfinished, t)

def display (t : TypingTerminal) : Text :=
  t.shown.reverse.flatten

end TypingTerminal
end ContractAssist
