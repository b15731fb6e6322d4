import ContractAssist.FileTree.Access
import ContractAssist.Text.Octets

/-!
# Executable — what is run when a file is started

A file is run by an installed program: itself, or the one that its first line names, perhaps by way
of other scripts.

* `Executable.ofPath?` finds the program for a path and its arguments;
* `Executable.search?` looks for a name in directories.
-/

namespace ContractAssist

/-- An installed program and its arguments, the first of which is the name that it goes by. -/
structure Executable where
  program : Text
  arguments : List Text
  deriving DecidableEq, Repr, Inhabited

namespace Executable

/-- So many scripts may stand between a file and the program that runs it. -/
def scriptLimit : Nat := 5

def headLimit : Nat := 256

def isGap (c : Char) : Bool :=
  c = ' ' || c = '\t'

/-- The interpreter that the first line of a script names, and its argument. -/
def interpreter? (content : Text) : Option (Text × List Text) :=
  match content.take headLimit with
  | '#' :: '!' :: head =>
    let line := head.takeWhile (· ≠ '\n')
    let ended := line.length < head.length
    let whole := ended || content.length < headLimit
    let line := if ended then (line.reverse.dropWhile isGap).reverse else line
    let line := line.dropWhile isGap
    let name := line.takeWhile fun c => !isGap c && c ≠ '\x00'
    let rest := line.drop name.length
    if (ended && line.isEmpty) || (!whole && rest.isEmpty) then none
    else
      match rest with
      | c :: _ =>
        if isGap c then
          some (name, [(rest.dropWhile isGap).takeWhile (· ≠ '\x00')])
        else some (name, [])
      | [] => some (name, [])
  | _ => none

/--
The program that runs what is at a path, with its arguments; `scripts` more scripts may stand
between. Arguments and contents are texts whose characters stand for bytes, and `name` gives the
path that such a text stands for.
-/
def ofPathWithin? (files : FileTree) (read : Bytes → Text) (name : Text → Text) :
    Nat → Text → List Text → Except IoError Executable
  | scripts, path, arguments =>
    match files.stat? (name path) with
    | .error e => .error e
    | .ok (_, .program program) => .ok ⟨program, arguments⟩
    | .ok (_, .file content true) =>
      match interpreter? (read (content.take headLimit)) with
      | none => .error .notAProgram
      | some (interpreter, extra) =>
        let arguments := interpreter :: extra ++ path :: arguments.tail
        match scripts with
        | 0 =>
          match files.stat? (name interpreter) with
          | .error e => .error e
          | .ok _ => .error .linkLoop
        | scripts + 1 => ofPathWithin? files read name scripts interpreter arguments
    | .ok _ => .error .permissionDenied

def ofPath? (files : FileTree) (path : Text) (arguments : List Text) :
    Except IoError Executable :=
  ofPathWithin? files ofBytes toText scriptLimit path arguments

/-- Where programs are looked for if nothing is said about it. -/
def usualDirectories : Text := "/bin:/usr/bin"

/--
Looks for a program in directories, in order; `load` gives what is at a path. A path that leads to
nothing is passed over, and so is a file that may not be run, which is the cause then if nothing is
found; any other cause ends the search. An empty directory stands for the name itself.
-/
def searchIn? (load : Text → Except IoError Executable) (name : Text) (denied : Bool) :
    List Text → Except IoError Executable
  | [] => .error (if denied then .permissionDenied else .notFound)
  | directory :: r =>
    match load (if directory.isEmpty then name else directory ++ '/' :: name) with
    | .ok found => .ok found
    | .error .permissionDenied => searchIn? load name true r
    | .error .notFound => searchIn? load name denied r
    | .error .notADirectory => searchIn? load name denied r
    | .error e => .error e

/--
Looks for a program by its name; one with a slash is a path. Where `directories` says nothing, it is
looked for in the usual ones.
-/
def search? (load : Text → Except IoError Executable) (directories : Option Text) (name : Text) :
    Except IoError Executable :=
  if name.isEmpty then .error .notFound
  else if name.elem '/' then load name
  else if FileTree.nameLimit < name.length then .error .nameTooLong
  else searchIn? load name false (Text.parts ':' (directories.getD usualDirectories))

end Executable
end ContractAssist
