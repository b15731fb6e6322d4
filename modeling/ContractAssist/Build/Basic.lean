import ContractAssist.Text.Basic

/-!
# Build — what is known about the program itself

* `Build` names the revision and the time that a program was made from and at;
* `Build.summary` is what the program says about itself.
-/

namespace ContractAssist

structure Build where
  commit : Text
  time : Text
  deriving DecidableEq, Repr, Inhabited

namespace Build

def programName : Text := "genvm-assist"

def version : Text := "0.1.0"

/-- The name and the version of the program, on request with all that is known about the build. -/
def summary (b : Build) (full : Bool) : Text :=
  programName ++ " " ++ version
    ++ (if full then "\ncommit: " ++ b.commit ++ "\nbuilt: " ++ b.time else []) ++ "\n"

end Build
end ContractAssist
