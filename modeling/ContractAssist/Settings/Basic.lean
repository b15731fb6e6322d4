import ContractAssist.Duration

/-!
# Settings — what a user can configure

* `Settings` has one part for the linter, the deployment tool, the questions and the display;
* the default of each part is its `Inhabited` value;
* `SettingsSource` names the place where settings came from.
-/

namespace ContractAssist

inductive LinterMode where
  | modern
  | legacy
  deriving DecidableEq, Repr

structure LinterSettings where
  program : Text := "genvm-lint"
  arguments : List Text := []
  mode : LinterMode := .modern
  -- how many seconds it may run
  timeoutSeconds : Nat := 30
  deriving DecidableEq, Repr

structure DeploySettings where
  program : Text := "genlayer"
  arguments : List Text := []
  rpc : Option Text := none
  -- the directory to run in; without it, the directory of the contract
  workingDir : Option Text := none
  -- how many seconds it may run, questions included
  timeoutSeconds : Nat := 300
  deriving DecidableEq, Repr

structure PromptSettings where
  -- how many milliseconds the text of a question may grow
  debounceMillis : Nat := 100
  minPasswordLength : Nat := 8
  deriving DecidableEq, Repr

structure DisplaySettings where
  color : Bool := true
  deriving DecidableEq, Repr

instance : Inhabited LinterSettings := ⟨{}⟩
instance : Inhabited DeploySettings := ⟨{}⟩
instance : Inhabited PromptSettings := ⟨{}⟩
instance : Inhabited DisplaySettings := ⟨{}⟩

structure Settings where
  linter : LinterSettings := default
  deploy : DeploySettings := default
  prompts : PromptSettings := default
  display : DisplaySettings := default
  deriving DecidableEq, Repr

instance : Inhabited Settings := ⟨{}⟩

def LinterSettings.timeout (s : LinterSettings) : Duration :=
  .ofSeconds s.timeoutSeconds

def DeploySettings.timeout (s : DeploySettings) : Duration :=
  .ofSeconds s.timeoutSeconds

def PromptSettings.debounce (s : PromptSettings) : Duration :=
  .ofMillis s.debounceMillis

inductive SettingsSource where
  | explicit (path : Text)
  | workingDirectory
  | perUser (path : Text)
  | builtInDefaults
  deriving DecidableEq, Repr, Inhabited

end ContractAssist
