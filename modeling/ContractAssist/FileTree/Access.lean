import ContractAssist.FileTree.Basic

/-!
# Access — reading and changing a file tree by paths

Each request names a path, and either succeeds or leaves the tree as it is.

* `FileTree.read?` and `FileTree.readText?` read a file;
* `FileTree.write?` and `FileTree.createNew?` write one, `FileTree.copy?` copies one;
* `FileTree.makeDirs?` makes a directory with all that it lies in;
* `FileTree.canonicalize?` gives the path of a place without links and dots.
-/

namespace ContractAssist
namespace FileTree

/-! ## Looking -/

/-- What a path leads to, links followed. -/
def stat? (t : FileTree) (path : Text) : Except IoError (Place × Node) := do
  match ← t.destination true path with
  | .found place node => return (place, node)
  | .vacant _ _ => .error .notFound

def pathExists (t : FileTree) (path : Text) : Bool :=
  match t.stat? path with
  | .ok _ => true
  | .error _ => false

def isFile (t : FileTree) (path : Text) : Bool :=
  match t.stat? path with
  | .ok (_, .file _ _) => true
  | .ok (_, .program _) => true
  | _ => false

def isDirectory (t : FileTree) (path : Text) : Bool :=
  match t.stat? path with
  | .ok (_, .directory) => true
  | _ => false

/-- The path of the place that a path leads to. -/
def canonicalize? (t : FileTree) (path : Text) : Except IoError Text := do
  return pathOf (← t.stat? path).1

/-! ## Reading -/

def read? (t : FileTree) (path : Text) : Except IoError Bytes := do
  match (← t.stat? path).2 with
  | .file content _ => return content
  | .directory => .error .isADirectory
  | .device .absent => .error .noDevice
  | _ => return []

def readText? (t : FileTree) (path : Text) : Except IoError Text := do
  match Utf8.decode? (← t.read? path) with
  | some text => return text
  | none => .error .notText

/-! ## Writing -/

/-- Replaces the content of a file, or makes the file. -/
def write? (t : FileTree) (path : Text) (content : Bytes) : Except IoError FileTree := do
  match ← t.destination true path with
  | .found place (.file _ runnable) => return t.put place (.file content runnable)
  | .found _ .directory => .error .isADirectory
  | .found _ (.device .absent) => .error .noDevice
  | .found _ (.device .full) => .error .noSpace
  | .found _ _ => return t
  | .vacant _ true => .error .isADirectory
  | .vacant place false => return t.put place (.file content false)

/-- Makes a file where nothing is, not even a link that leads nowhere. -/
def createNew? (t : FileTree) (path : Text) (content : Bytes) : Except IoError FileTree := do
  match ← t.destination false path with
  -- a link in the place is enough, wherever it leads
  | .found _ _ => .error (if path.getLast? = some '/' then .isADirectory else .alreadyExists)
  | .vacant _ true => .error .isADirectory
  | .vacant place false => return t.put place (.file content false)

/-- Copies a file, and whether it can be run. -/
def copy? (t : FileTree) (source target : Text) : Except IoError FileTree := do
  match (← t.stat? source).2 with
  | .file content runnable =>
    match ← t.destination true target with
    | .found place (.file _ _) => return t.put place (.file content runnable)
    | .found _ .directory => .error .isADirectory
    | .found _ _ => return t
    | .vacant _ true => .error .isADirectory
    | .vacant place false => return t.put place (.file content runnable)
  | _ => .error .notAnOrdinaryFile

/-! ## Directories -/

def makeDir? (t : FileTree) (path : Text) : Except IoError FileTree := do
  match ← t.destination false path with
  | .found _ _ => .error .alreadyExists
  | .vacant place _ => return t.put place .directory

/-- A path and the paths of all that it lies in, the innermost first; `fuel` bounds their number. -/
def ancestors : Nat → Text → List Text
  | 0, _ => []
  | fuel + 1, path =>
    match Path.parent? path with
    | none => []
    | some parent => if path.isEmpty then [] else path :: ancestors fuel parent

/-- Makes those directories that are missing; each lies in the one after it. -/
def makeMissing? (t : FileTree) : List Text → Except IoError FileTree
  | [] => .ok t
  | path :: outer =>
    match t.makeDir? path with
    | .ok t' => .ok t'
    | .error .notFound =>
      -- the one around it is missing, too
      match makeMissing? t outer with
      | .error e => .error e
      | .ok t' =>
        match t'.makeDir? path with
        | .ok t'' => .ok t''
        | .error e => if e = .alreadyExists ∧ t'.isDirectory path then .ok t' else .error e
    | .error e => if e = .alreadyExists ∧ t.isDirectory path then .ok t else .error e

/-- Makes a directory with all that it lies in, unless it is there already. -/
def makeDirs? (t : FileTree) (path : Text) : Except IoError FileTree :=
  t.makeMissing? (ancestors (path.length + 1) path)

/-! ## Removing -/

def removeFile? (t : FileTree) (path : Text) : Except IoError FileTree := do
  match ← t.destination false path with
  | .found _ .directory => .error .isADirectory
  | .found place _ => return t.remove place
  | .vacant _ _ => .error .notFound

end FileTree
end ContractAssist
