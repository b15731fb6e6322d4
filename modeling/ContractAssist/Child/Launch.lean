import ContractAssist.Invocation
import ContractAssist.Shell.Evaluation

/-!
# Launch — how a command is started

* `Launch.behaviour?` is what a command does on a machine, or why it cannot be started.

The working directory is changed first; the program is looked for after that.
-/

namespace ContractAssist

abbrev Variables := List (Text × Text)

namespace Launch

/-- So deep may the commands of a script be nested. -/
def depth : Nat := 400000

def directory? (files : FileTree) (path : Option Text) : Except IoError Place :=
  match path with
  | none => .ok files.workingDir
  | some path => do
    match ← files.stat? path with
    | (place, .directory) => return place
    | _ => .error .notADirectory

def usualMask : Nat := 18

/-- A program that has not begun yet, whose input is `source`. -/
def beginning (vars : Variables) (place : Place) (source : Channel) : Shell.State where
  vars := vars.map fun v => ⟨ofText v.1, some (ofText v.2), true, false⟩
  name := []
  arguments := []
  status := 0
  line := 0
  command? := none
  options := []
  channels := [(0, source), (1, .stream .output), (2, .stream .diagnostics)]
  kept := []
  functions := []
  aliases := []
  place := place
  path := ofText (FileTree.pathOf place)
  root := 0
  own := 0
  parent? := none
  tracked := []
  jobs := []
  noted := []
  background? := none
  loops := 0
  calls := 0
  skip := .nothing
  traps := []
  ignored := []
  pending := []
  locals := []
  optionPlace := Shell.Act.firstOption
  texts := []
  made := 0
  substituted := 0
  settled? := none
  isTracing := false
  mask := usualMask

def behaviour? (files : FileTree) (vars : Variables) (source : Channel) (i : Invocation) :
    Except IoError Behaviour := do
  if (i.program :: i.arguments ++ i.workingDir.toList).any fun t => t.elem '\x00' then
    .error .argumentWithNul
  let place ← directory? files i.workingDir
  let directories := (vars.find? fun v => v.1 = ("PATH" : Text)).map fun v => ofText v.2
  let load (path : Text) : Except IoError Executable :=
    Executable.ofPath? { files with workingDir := place } path
      ((i.program :: i.arguments).map ofText)
  let found ← Executable.search? load directories (ofText i.program)
  return Shell.runExecutable depth found (beginning vars place source)
    fun _ s => .ended (.code (s.status % 256))

end Launch
end ContractAssist
