import ContractAssist.Text.Basic

/-!
# Prompt — what a deployment tool asks for

* `PasswordContext` tells three password questions apart, `PromptKind` all questions;
* prompts of one `PromptCategory` count as the same question;
* `Prompt` is one question with the line that asks it.
-/

namespace ContractAssist

inductive PasswordContext where
  | newKeystore
  | confirm
  | decrypt
  deriving DecidableEq, Repr, Inhabited

inductive PromptKind where
  | keypair
  | password (context : PasswordContext)
  deriving DecidableEq, Repr, Inhabited

/-- Questions of one category are answered once. -/
inductive PromptCategory where
  | keypair
  | password
  deriving DecidableEq, Repr, Inhabited

namespace PromptKind

def category : PromptKind → PromptCategory
  | keypair => .keypair
  | password _ => .password

end PromptKind

structure Prompt where
  -- the latest text of its line, without blanks around it
  text : Text
  kind : PromptKind
  handled : Bool
  deriving DecidableEq, Repr, Inhabited

namespace Prompt

def fresh (kind : PromptKind) (line : Text) : Prompt :=
  ⟨Text.trim line, kind, false⟩

def category (p : Prompt) : PromptCategory :=
  p.kind.category

end Prompt
end ContractAssist
