import ContractAssist.Child.Capture
import ContractAssist.Path
import ContractAssist.Settings.Load

/-!
# Stamp — finding out what a program is built from

A build is stamped with its revision and its time. A stamp that the environment fixes is taken from
there, else a tool is asked, and if that fails there is a placeholder.

* `Stamp.value` is the value of a stamp;
* `Stamp.script` is all that the build system is told: what to watch, and the stamps.
-/

namespace ContractAssist

inductive Stamp where
  | commit
  | time
  deriving DecidableEq, Repr, Inhabited

namespace Stamp

/-! ## Values -/

def name : Stamp → Text
  | commit => "GENVM_ASSIST_BUILD_GIT_HASH"
  | time => "GENVM_ASSIST_BUILD_TIMESTAMP"

def tool : Stamp → Invocation
  | commit => ⟨"git", ["rev-parse", "--short=12", "HEAD"], none, ⟨0⟩⟩
  | time => ⟨"date", ["-u", "+%Y-%m-%dT%H:%M:%SZ"], none, ⟨0⟩⟩

/-- Stands for a stamp that nobody knows; `now` is the time in seconds. -/
def placeholder (now : Nat) : Stamp → Text
  | commit => "unknown"
  | time => "unix:" ++ Text.ofNat now

/-- What a tool says, if it ended well and said something. -/
def answer? (c : Captured) : Option Text :=
  if c.ending = .code 0 then (Utf8.decode? c.output).bind Settings.nonBlank? else none

/-- Asks a tool, however long it takes: its answer, and the files afterwards. -/
def ask (files : FileTree) (vars : Variables) (tool : Invocation) : Option Text × FileTree :=
  match Launch.behaviour? files vars .nothing tool with
  | .error _ => (none, files)
  | .ok behaviour =>
    let (captured, stage) := Capture.runWithin none Capture.patience (Stage.new files behaviour)
    (captured.bind answer?, stage.files)

def value (files : FileTree) (vars : Variables) (now : Nat) (s : Stamp) : Text × FileTree :=
  let fixed := (vars.find? fun v => v.1 = s.name).bind fun v => Settings.nonBlank? v.2
  match fixed with
  | some value => (value, files)
  | none =>
    let (answer, files) := ask files vars s.tool
    (answer.getD (s.placeholder now), files)

/-! ## The build system -/

def repository : Text := ".git"

def branchMark : Text := "ref: "

/-- The paths that change with the revision: which branch is checked out, and where it is. -/
def watched (files : FileTree) : List Text :=
  let head := Path.join repository "HEAD"
  let branch := (files.readText? head).toOption.bind fun text =>
    Text.afterFront? branchMark (Text.trim text)
  head :: branch.toList.map (Path.join repository)

def watchPath (path : Text) : Text :=
  "cargo:rerun-if-changed=" ++ path ++ "\n"

def setVariable (name value : Text) : Text :=
  "cargo:rerun-if-env-changed=" ++ name ++ "\ncargo:rustc-env=" ++ name ++ "=" ++ value ++ "\n"

/-- All that the build system is told, and the files afterwards. -/
def script (files : FileTree) (vars : Variables) (now : Nat) : Text × FileTree :=
  let (revision, afterCommit) := value files vars now .commit
  let (moment, afterTime) := value afterCommit vars now .time
  ((watched files).flatMap watchPath ++ setVariable (name .commit) revision
    ++ setVariable (name .time) moment, afterTime)

end Stamp
end ContractAssist
