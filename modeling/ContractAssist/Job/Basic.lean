import ContractAssist.Build.Basic
import ContractAssist.Child.Launch
import ContractAssist.Settings.Establish
import ContractAssist.Terminal.Console
import ContractAssist.Terminal.Style

/-!
# Job — what the program does with its world

* `World` is all that a job can see and change;
* `Job` is a computation on a world that may end early, with an exit code;
* `Job.print` and `Job.complain` speak to the user.
-/

namespace ContractAssist

structure World where
  files : FileTree
  vars : Variables
  account : Option Text
  time : Nat
  process : Nat
  build : Build
  console : Console
  deriving DecidableEq, Repr

namespace World

def environment (w : World) : Environment := fun name =>
  (w.vars.find? fun v => v.1 = name).map Prod.snd

def settingsRoot? (w : World) : Option Text :=
  Settings.rootDir? w.environment w.account

/-- Does the user want no colours in any program? -/
def isColorless (w : World) : Bool :=
  (w.environment "NO_COLOR").any fun value => !value.isEmpty

end World

/-- A computation on a world that may end early with an exit code. -/
abbrev Job := ExceptT Nat (StateM World)

namespace Job

/-! ## Exit codes -/

def succeeded : Nat := 0

def failed : Nat := 1

/-- There is no answer. -/
def refused : Nat := 2

/-- The user cannot be told what is wrong. -/
def unheard : Nat := 101

/-! ## Speaking to the user -/

def print (t : Text) : Job Unit :=
  modify fun w => { w with console := w.console.print t }

/-- Goes on only if complaints are seen. -/
def requireHearing : Job Unit := do
  if !(← get).console.hears then throw unheard

/-- Complains; a job ends where complaints are not seen. -/
def complain (t : Text) : Job Unit := do
  requireHearing
  modify fun w => { w with console := w.console.complain t }

end Job
end ContractAssist
