import ContractAssist.FileTree.Machine
import ContractAssist.Job.Request

/-!
# Main — the command line

The program takes the files that its words and its settings name into a file tree, answers the words
on it, says what there is to say, and writes the files that changed. The library runs the tools on
that tree, so they are scripts.
-/

namespace ContractAssist

/-! ## What to look at -/

def CommandLine.Arguments.paths (a : CommandLine.Arguments) : List Text :=
  let subject := match a.command with
    | .lint file _ _ _ => [file]
    | .deploy contract _ _ _ _ => [contract]
    | .init _ => []
  Settings.localFile :: a.config.toList ++ subject

def Settings.paths (s : Settings) : List Text :=
  s.linter.program :: s.linter.arguments ++ s.deploy.program :: s.deploy.arguments

def CommandLine.Arguments.vars (a : CommandLine.Arguments) : List Text :=
  let password := match a.command with
    | .deploy _ _ _ _ name => name.toList
    | _ => []
  let own := [Settings.linterVariable, Settings.deployerVariable, Settings.rpcVariable,
    Settings.timeoutVariable]
  ("HOME" : Text) :: "PATH" :: "XDG_CONFIG_HOME" :: "NO_COLOR" :: own ++ password

def FileTree.writtenSince (t before : FileTree) : List (Place × Bytes) :=
  t.nodes.filterMap fun n =>
    match n with
    | (place, .file content _) => if before.nodes.contains n then none else some (place, content)
    | _ => none

/-! ## Looking and writing -/

/-- Takes a file into a file tree, if there is one; a script can be run. -/
def takeFile (t : FileTree) (path : Text) : IO FileTree := do
  try
    let content := (← IO.FS.readBinFile (String.ofList path)).toList
    return (t.withFile path content (Utf8.encode "#!" |>.isPrefixOf content)).toOption.getD t
  catch _ => return t

def takeVariables (names : List Text) : IO Variables :=
  names.filterMapM fun name => do
    return (← IO.getEnv (String.ofList name)).map fun value => (name, value.toList)

/-- A machine with an empty working directory at a path. -/
def machineAt (path : Text) : FileTree :=
  let t := ((FileTree.bare "work").withDirs [path]).toOption.getD (FileTree.bare "work")
  match t.stat? path with
  | .ok (place, _) => { t with workingDir := place }
  | .error _ => t

def giveFile (place : Place) (content : Bytes) : IO Unit := do
  IO.FS.createDirAll (String.ofList (FileTree.pathOf place.dropLast))
  IO.FS.writeBinFile (String.ofList (FileTree.pathOf place)) ⟨content.toArray⟩

partial def takeInput (input : IO.FS.Stream) (taken : Bytes) : IO Bytes := do
  let piece ← input.read 4096
  if piece.isEmpty then return taken else takeInput input (taken ++ piece.toList)

/-- The world of a request, and what its words name. -/
def takeWorld (words : List Text) : IO World := do
  let empty := machineAt (toString (← IO.currentDir)).toList
  let console : Console := ⟨[], [], [], none, none⟩
  let time := (← IO.monoMsNow) / 1000
  let w : World := ⟨empty, [], none, time, 1, ⟨"unknown", "unknown"⟩, console⟩
  match CommandLine.parse words with
  | .error _ => return w
  | .ok arguments =>
    let w := { w with vars := ← takeVariables arguments.vars }
    let user := w.settingsRoot?.toList.map Settings.userPath
    let w := { w with files := ← (arguments.paths ++ user).foldlM takeFile w.files }
    let tools := match Settings.load Settings.ofToml? arguments.config w.files.readText?
        w.environment w.settingsRoot? with
      | .ok (settings, _) => settings.paths
      | .error _ => []
    let input ← match arguments.command with
      | .deploy _ _ _ _ _ => takeInput (← IO.getStdin) []
      | _ => pure []
    return { w with
      files := ← tools.foldlM takeFile w.files
      console := { console with input } }

end ContractAssist

open ContractAssist in
def main (words : List String) : IO UInt32 := do
  let words := words.map String.toList
  let before ← takeWorld words
  let (code, after) := before.perform words
  IO.print (String.ofList after.console.output)
  IO.eprint (String.ofList after.console.diagnostics)
  (after.files.writtenSince before.files).forM fun (place, content) => giveFile place content
  return UInt32.ofNat code
