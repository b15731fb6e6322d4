import ContractAssist.Duration

/-!
# Error — what can go wrong, and how it is said

Each error is a cause; its wording is in one function per type.

* `IoError` are the causes that come from the machine;
* `RunError`, `LintError`, `DeployError` and `SettingsError` are those of the program's own jobs.
-/

namespace ContractAssist

/-! ## The machine -/

inductive IoError where
  | notFound
  | permissionDenied
  | alreadyExists
  | notADirectory
  | isADirectory
  | linkLoop
  | nameTooLong
  -- a path has a character with code zero
  | pathWithNul
  -- an argument has a character with code zero
  | argumentWithNul
  | notText
  -- a file that is to be copied is not an ordinary one
  | notAnOrdinaryFile
  | notAProgram
  | noDevice
  | noSpace
  | brokenPipe
  | noChild
  | other (text : Text)
  deriving DecidableEq, Repr, Inhabited

namespace IoError

/-- The number by which the system knows a cause. -/
def number? : IoError → Option Nat
  | notFound => some 2
  | permissionDenied => some 13
  | alreadyExists => some 17
  | notADirectory => some 20
  | isADirectory => some 21
  | linkLoop => some 40
  | nameTooLong => some 36
  | notAProgram => some 8
  | noDevice => some 6
  | noSpace => some 28
  | brokenPipe => some 32
  | noChild => some 10
  | _ => none

def text : IoError → Text
  | notFound => "No such file or directory"
  | permissionDenied => "Permission denied"
  | alreadyExists => "File exists"
  | notADirectory => "Not a directory"
  | isADirectory => "Is a directory"
  | linkLoop => "Too many levels of symbolic links"
  | nameTooLong => "File name too long"
  | pathWithNul => "file name contained an unexpected NUL byte"
  | argumentWithNul => "nul byte found in provided data"
  | notText => "stream did not contain valid UTF-8"
  | notAnOrdinaryFile =>
    "the source path is neither a regular file nor a symlink to a regular file"
  | notAProgram => "Exec format error"
  | noDevice => "No such device or address"
  | noSpace => "No space left on device"
  | brokenPipe => "Broken pipe"
  | noChild => "No child processes"
  | other text => text

def message (e : IoError) : Text :=
  match e.number? with
  | some n => e.text ++ " (os error " ++ Text.ofNat n ++ ")"
  | none => e.text

end IoError

/-- An input or output error as part of another error. -/
def ioMessage (cause : IoError) : Text :=
  "io: " ++ cause.message

/-! ## The jobs -/

inductive RunError where
  | spawn (program : Text) (cause : IoError)
  | timedOut (limit : Duration)
  | cancelled
  | io (cause : IoError)
  deriving DecidableEq, Repr, Inhabited

def RunError.message : RunError → Text
  | spawn program cause => program ++ ": " ++ cause.message
  | timedOut _ => "timed out"
  | cancelled => "cancelled by user"
  | io cause => ioMessage cause

inductive LintError where
  | missingFile (path : Text)
  | process (cause : RunError)
  deriving DecidableEq, Repr, Inhabited

def LintError.message : LintError → Text
  | missingFile path => "file not found: " ++ path
  | process cause => "linter: " ++ cause.message

inductive DeployError where
  | missingContract (path : Text)
  | notAFile (path : Text)
  deriving DecidableEq, Repr, Inhabited

def DeployError.message : DeployError → Text
  | missingContract path => "contract not found: " ++ path
  | notAFile path => "contract path is not a file: " ++ path

inductive SettingsError where
  | io (cause : IoError)
  -- the text is not TOML, or its values have the wrong types
  | toml (detail : Text)
  | invalid (detail : Text)
  deriving DecidableEq, Repr, Inhabited

def SettingsError.message : SettingsError → Text
  | io cause => ioMessage cause
  | toml detail => "toml: " ++ detail
  | invalid detail => "invalid config: " ++ detail

end ContractAssist
