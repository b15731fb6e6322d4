import ContractAssist.Prompt.Basic
import ContractAssist.Text.LowerCase

/-!
# LineClass — what one line of output means

The questions of a deployment tool are free text, so the rules go by phrases: some are looked for as
they are, others in the lower-case form of the line. Notices about a password come before
questions: first an accepted password, then a rejected one, then a question about a keypair, then a
question about a password.

* `classify` gives the class of a line;
* `LineClass.isResetSignal` holds of the notices after which a password may be asked for again.
-/

namespace ContractAssist

inductive LineClass where
  | plain
  | prompt (kind : PromptKind)
  | passwordAccepted
  -- a password was rejected; the line may ask again itself
  | passwordRejected (retry : Option PromptKind)
  deriving DecidableEq, Repr, Inhabited

namespace LineClass

/-- After such a line a password may be asked for again. -/
def isResetSignal : LineClass → Bool
  | passwordAccepted => true
  | passwordRejected _ => true
  | _ => false

def question? : LineClass → Option PromptKind
  | prompt kind => some kind
  | passwordRejected retry => retry
  | _ => none

/-! ## Phrases -/

/-- Stands in front of a question that was answered. -/
def successGlyph : Char := '✔'

/-- Shown in place of a typed secret. -/
def maskedMarker : Text := "***"

/-- Turn a line about a password into a question; looked for as they are. -/
def questionMarkers : List Text := ["?", "Enter", "Invalid", "Attempt", "Confirm"]

def confirmMarkers : List Text := ["confirm", "again", "re-enter"]

def newKeystoreMarkers : List Text := ["new", "create", "encrypt"]

def failurePhrases : List Text :=
  ["incorrect password", "wrong password", "authentication failed", "could not decrypt",
    "invalid password"]

/-! ## Rules -/

def startsWithGlyph (line : Text) : Bool :=
  [successGlyph].isPrefixOf (Text.trimStart line)

def asksForKeypair (line lower : Text) : Bool :=
  Text.contains "keypair" lower && Text.contains "not found" lower
    && (Text.contains "(Y/n)" line || Text.contains "(y/n)" line)

def asksForPassword (line lower : Text) : Bool :=
  (Text.contains "password" lower || Text.contains "keystore" lower)
    && !startsWithGlyph line
    && !Text.contains maskedMarker line
    && Text.containsAny questionMarkers line

def passwordContext (lower : Text) : PasswordContext :=
  if Text.containsAny confirmMarkers lower then .confirm
  else if Text.containsAny newKeystoreMarkers lower then .newKeystore
  else .decrypt

/--
What the question on a rejecting line is about. There, "again" means to try again and not to repeat
a new password.
-/
def retryContext (lower : Text) : PasswordContext :=
  if passwordContext lower = .confirm ∧ !Text.contains "confirm" lower
      ∧ !Text.contains "re-enter" lower then .decrypt
  else passwordContext lower

def acceptsPassword (line lower : Text) : Bool :=
  List.elem successGlyph line && Text.contains "password" lower
    && !Text.contains "confirm" lower

def rejectsPassword (line lower : Text) : Bool :=
  !startsWithGlyph line && Text.containsAny failurePhrases lower

end LineClass

open LineClass in
def classify (line : Text) : LineClass :=
  let lower := Text.folded line
  -- what is said about an answer comes before any question, whose words may be on the same line
  if acceptsPassword line lower then .passwordAccepted
  else if rejectsPassword line lower then
    .passwordRejected
      (if asksForPassword line lower then some (.password (retryContext lower)) else none)
  else if asksForKeypair line lower then .prompt .keypair
  else if asksForPassword line lower then .prompt (.password (passwordContext lower))
  else .plain

end ContractAssist
