import ContractAssist.Path
import ContractAssist.Settings.Decode

/-!
# Load — finding, reading and checking settings

A file that is named must be there. Otherwise the file in the working directory counts, else that
of the user, else the defaults. The environment then overrides single settings, and the result is
checked.

* `Settings.choose` finds the text and its source;
* `Settings.override` applies the environment, `Settings.check` looks for values not allowed;
* `Settings.load` does all of it.
-/

namespace ContractAssist

/-- The value of an environment variable, if it is set. -/
abbrev Environment := Text → Option Text

namespace Settings

/-! ## Places -/

def localFile : Text := "genvm-assist.toml"

/-- The directory of the program below that of the user's settings. -/
def userDir : Text := "genvm-assist"

def userFile : Text := "config.toml"

/-- The text without blanks around it, unless nothing is left. -/
def nonBlank? (t : Text) : Option Text :=
  if (Text.trim t).isEmpty then none else some (Text.trim t)

def envValue? (env : Environment) (name : Text) : Option Text :=
  (env name).bind nonBlank?

/-- The home directory: that of the environment, or else that of the account. -/
def homeDir? (env : Environment) (account : Option Text) : Option Text :=
  ((env "HOME").filter fun home => !home.isEmpty).or account

def rootDir? (env : Environment) (account : Option Text) : Option Text :=
  (envValue? env "XDG_CONFIG_HOME").or
    ((homeDir? env account).map fun home => Path.join home ".config")

/-- The settings file of the user in the directory of the user's settings. -/
def userPath (root : Text) : Text :=
  Path.join (Path.join root userDir) userFile

/-! ## Reading -/

abbrev FileReader := Text → Except IoError Text

/-- The text of the settings file that counts, and where it is from. -/
def choose (explicit : Option Text) (read : FileReader) (root : Option Text) :
    Except SettingsError (Text × SettingsSource) :=
  match explicit with
  | some path =>
    match read path with
    | .ok text => .ok (text, .explicit path)
    | .error e => .error (.io e)
  | none =>
    match read localFile with
    | .ok text => .ok (text, .workingDirectory)
    -- for whatever reason it cannot be read, a file that nobody named is passed over
    | .error _ =>
      match root with
      | none => .ok ([], .builtInDefaults)
      | some dir =>
        match read (userPath dir) with
        | .ok text => .ok (text, .perUser (userPath dir))
        | .error _ => .ok ([], .builtInDefaults)

/-! ## The environment -/

def linterVariable : Text := "GENVM_ASSIST_LINTER"

def deployerVariable : Text := "GENVM_ASSIST_DEPLOYER"

def rpcVariable : Text := "GENVM_ASSIST_RPC"

def timeoutVariable : Text := "GENVM_ASSIST_DEPLOY_TIMEOUT_SECS"

def badTimeout (value : Text) : Text :=
  "invalid " ++ timeoutVariable ++ " value `" ++ value ++ "`: expected positive integer seconds"

/-- The deployment settings with what the environment says in place of the file. -/
def overrideDeploy (env : Environment) (s : DeploySettings) : Except SettingsError DeploySettings :=
  let named : DeploySettings :=
    { s with
      program := (envValue? env deployerVariable).getD s.program
      rpc := (envValue? env rpcVariable).or s.rpc }
  match envValue? env timeoutVariable with
  | none => .ok named
  | some value =>
    match Text.natural64? value with
    | some n => .ok { named with timeoutSeconds := max n 1 }
    | none => .error (.invalid (badTimeout value))

def override (env : Environment) (s : Settings) : Except SettingsError Settings := do
  let deploy ← overrideDeploy env s.deploy
  let linter := { s.linter with program := (envValue? env linterVariable).getD s.linter.program }
  return { s with linter, deploy }

/-! ## Checks -/

/-- The text of a question may grow at most so many milliseconds. -/
def debounceLimit : Nat := 5000

def objection? (s : Settings) : Option Text :=
  if Text.allBlank s.linter.program then some "linter.program must not be empty"
  else if Text.allBlank s.deploy.program then some "deploy.program must not be empty"
  else if debounceLimit < s.prompts.debounceMillis then
    some ("prompts.debounce_ms = " ++ Text.ofNat s.prompts.debounceMillis ++ " exceeds the "
      ++ Text.ofNat debounceLimit ++ "ms limit")
  else if s.prompts.minPasswordLength = 0 then some "prompts.min_password_len must be at least 1"
  else none

/-- Times are at least a second, and an endpoint is not blank. -/
def normalize (s : Settings) : Settings :=
  { s with
    linter := { s.linter with timeoutSeconds := max s.linter.timeoutSeconds 1 }
    deploy :=
      { s.deploy with
        timeoutSeconds := max s.deploy.timeoutSeconds 1
        rpc := s.deploy.rpc.filter fun url => !Text.allBlank url } }

/-- The settings in normal form, if all values are allowed. -/
def check (s : Settings) : Except SettingsError Settings :=
  match objection? s with
  | some detail => .error (.invalid detail)
  | none => .ok (normalize s)

/-- Finds, reads, overrides and checks settings. -/
def load (parse : Text → Except SettingsError Settings) (explicit : Option Text)
    (read : FileReader) (env : Environment) (root : Option Text) :
    Except SettingsError (Settings × SettingsSource) := do
  let (text, source) ← choose explicit read root
  -- the checks come last, so that they also see what the environment has set
  let settings ← check (← override env (← parse text))
  return (settings, source)

end Settings
end ContractAssist
