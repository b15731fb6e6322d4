import ContractAssist.Duration
import ContractAssist.Text.Quoted

/-!
# Invocation — an external command

* `Invocation` is a command with its arguments, its directory and its time limit;
* `Invocation.display` shows it on one line.
-/

namespace ContractAssist

structure Invocation where
  program : Text
  arguments : List Text
  workingDir : Option Text
  timeout : Duration
  deriving DecidableEq, Repr, Inhabited

namespace Invocation

/-- Must the argument be quoted to stay one visible piece? -/
def needsQuotes (argument : Text) : Bool :=
  argument.isEmpty || argument.any isBlank

def displayArgument (argument : Text) : Text :=
  if needsQuotes argument then Quoted.encode argument else argument

def display (i : Invocation) : Text :=
  i.program ++ i.arguments.flatMap fun argument => ' ' :: displayArgument argument

end Invocation
end ContractAssist
