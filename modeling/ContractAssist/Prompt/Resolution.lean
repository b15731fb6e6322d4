import ContractAssist.Prompt.Basic

/-!
# Resolution — from a question to the line that answers it

A prompt of the child program becomes one or more questions to whoever answers them, and the
answers become one line of input for the child. The exchange is a value, so that it can be advanced
while other things happen.

* `Question` is what is asked, `Answer` what comes back;
* `Resolution` is an exchange under way: `Resolution.start` opens it, `Resolution.take` advances it
  by one answer;
* `Response` is its outcome.
-/

namespace ContractAssist

structure SecretRequest where
  label : Text
  promptText : Text
  context : PasswordContext
  -- why the secret before this one was not good enough
  error : Option Text
  deriving DecidableEq, Repr, Inhabited

inductive Question where
  | confirm (question : Text)
  | secret (request : SecretRequest)
  deriving DecidableEq, Repr, Inhabited

inductive Answer where
  | dismissed
  | choice (yes : Bool)
  | secret (value : Text)
  deriving DecidableEq, Repr, Inhabited

inductive Response where
  -- a line for the child, its line feed included
  | reply (line : Text)
  | cancelled
  deriving DecidableEq, Repr, Inhabited

namespace Response

/-- A form for diagnostics; it keeps the reply to itself. -/
def redacted : Response → Text
  | reply _ => "Reply(<redacted>)"
  | cancelled => "Cancelled"

end Response

/-! ## Secrets -/

def PasswordContext.label : PasswordContext → Text
  | newKeystore => "Create a password to encrypt your keystore"
  | confirm => "Confirm your keystore password"
  | decrypt => "Enter your keystore password"

namespace Secret

/-- How many secrets are asked for before the question counts as dismissed. -/
def maxAttempts : Nat := 5

/-- Only the password of a new keystore can be too short. -/
def tooShort (secret : Text) (context : PasswordContext) (minLength : Nat) : Bool :=
  context = .newKeystore ∧ secret.length < minLength

def lengthMessage (minLength : Nat) : Text :=
  "Password must be at least " ++ Text.ofNat minLength ++ " characters"

def complaint? (secret : Text) (context : PasswordContext) (minLength : Nat) : Option Text :=
  if tooShort secret context minLength then some (lengthMessage minLength) else none

end Secret

/-! ## Exchanges -/

/-- An exchange under way. -/
inductive Resolution where
  | confirming (question : Text)
  -- a secret was asked for; `left` more requests are allowed
  | entering (request : SecretRequest) (left : Nat)
  -- the outcome is known. `exhausted`: every secret that was given was too short
  | settled (response : Response) (exhausted : Bool)
  deriving DecidableEq, Repr, Inhabited

namespace Resolution

def keypairQuestion (promptText : Text) : Text :=
  "No keypair was found (" ++ promptText ++ "). Create a new one?"

def firstRequest (promptText : Text) (context : PasswordContext) : SecretRequest :=
  ⟨context.label, promptText, context, none⟩

/-- Opens the exchange about a prompt. -/
def start (prompt : Prompt) : Resolution :=
  match prompt.kind with
  | .keypair => confirming (keypairQuestion prompt.text)
  | .password context => entering (firstRequest prompt.text context) (Secret.maxAttempts - 1)

def question? : Resolution → Option Question
  | confirming q => some (.confirm q)
  | entering request _ => some (.secret request)
  | settled _ _ => none

/-- Advances an exchange by the answer to its open question. -/
def take (minLength : Nat) : Resolution → Answer → Resolution
  | confirming _, .choice true => settled (.reply "Y\n") false
  | confirming _, .choice false => settled (.reply "n\n") false
  | confirming _, _ => settled .cancelled false
  | entering request left, .secret value =>
    -- to enter nothing is to dismiss the question, and is not counted as too short
    if value.isEmpty then settled .cancelled false
    else
      match Secret.complaint? value request.context minLength, left with
      | none, _ => settled (.reply (value ++ "\n")) false
      | some _, 0 => settled .cancelled true
      | some message, left + 1 => entering { request with error := some message } left
  | entering _ _, _ => settled .cancelled false
  | settled response exhausted, _ => settled response exhausted

/-- How many answers an exchange takes at most. -/
def fuel : Resolution → Nat
  | confirming _ => 1
  | entering _ left => left + 1
  | settled _ _ => 0

end Resolution
end ContractAssist
