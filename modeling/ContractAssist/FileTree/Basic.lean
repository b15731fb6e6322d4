import ContractAssist.Error
import ContractAssist.Path
import ContractAssist.Text.Utf8

/-!
# FileTree — directories, files and symbolic links

A file tree says what is where. A place in it is a list of names, from the root on.

* `Node` is what can be at a place;
* `FileTree.node?` looks at a place, `FileTree.put` and `FileTree.remove` change it;
* `FileTree.walk` follows the parts of a path, symbolic links included.
-/

namespace ContractAssist

/-- A place in a file tree: the names from the root on. -/
abbrev Place := List Text

namespace Place

def sameName : Text → Text → Bool
  | [], [] => true
  | c :: r, d :: s => c = d && sameName r s
  | _, _ => false

/-- Are two places the same? A tree of many files is searched with this comparison. -/
def same : Place → Place → Bool
  | [], [] => true
  | name :: r, other :: s => sameName name other && same r s
  | _, _ => false

@[simp] theorem sameName_eq_decide (t u : Text) : sameName t u = decide (t = u) := by
  induction t generalizing u with
  | nil => cases u <;> simp [sameName]
  | cons c r ih => cases u <;> simp [sameName, ih]

@[simp] theorem same_eq_decide (p q : Place) : same p q = decide (p = q) := by
  induction p generalizing q with
  | nil => cases q <;> simp [same]
  | cons name r ih => cases q <;> simp [same, ih]

end Place

inductive Device where
  -- it swallows what is written, and there is nothing to read
  | sink
  -- it swallows what is written, and there are zeros to read without an end
  | zeros
  -- it has no room for what is written, and there are zeros to read without an end
  | full
  | absent
  deriving DecidableEq, Repr, Inhabited

inductive Node where
  | directory
  -- a file; can it be run?
  | file (content : Bytes) (runnable : Bool)
  -- another name for the place that a path leads to
  | link (target : Text)
  | device (kind : Device)
  -- an installed program; what it does is known by its name
  | program (name : Text)
  deriving DecidableEq, Repr, Inhabited

/-- Directories, files and symbolic links. -/
structure FileTree where
  -- what is where; the root is not listed
  nodes : List (Place × Node)
  workingDir : Place
  deriving DecidableEq, Repr, Inhabited

namespace FileTree

/-! ## Places -/

def node? (t : FileTree) (place : Place) : Option Node :=
  if place = [] then some .directory
  else (t.nodes.find? fun n => n.1.same place).map Prod.snd

/-- Puts something at a place, instead of what is there. -/
def put (t : FileTree) (place : Place) (node : Node) : FileTree :=
  if t.nodes.any fun n => n.1.same place then
    { t with nodes := t.nodes.map fun n => if n.1.same place then (place, node) else n }
  else { t with nodes := t.nodes ++ [(place, node)] }

def remove (t : FileTree) (place : Place) : FileTree :=
  { t with nodes := t.nodes.filter fun n => !n.1.same place }

def pathOf (place : Place) : Text :=
  if place = [] then "/" else place.flatMap fun name => '/' :: name

def namesBelow (t : FileTree) (place : Place) : List Text :=
  (t.nodes.filter fun n => n.1 ≠ [] ∧ n.1.dropLast = place).filterMap fun n => n.1.getLast?

/-! ## Paths -/

/-- The parts of a path between its slashes, empty ones included. -/
def parts (path : Text) : List Text :=
  Text.parts '/' path

/-- A name has at most so many bytes. -/
def nameLimit : Nat := 255

def pathLimit : Nat := 4096

/-- So many symbolic links are followed on the way to one place. -/
def linkLimit : Nat := 40

inductive Destination where
  | found (place : Place) (node : Node)
  -- to nothing, but its directory is there; `slash` if a slash ends the path
  | vacant (place : Place) (slash : Bool)
  deriving DecidableEq, Repr, Inhabited

def startOf (t : FileTree) (path : Text) : Place :=
  if Path.isAbsolute path then [] else t.workingDir

/--
Follows the parts of a path from a place. A symbolic link is replaced by its target, also as the
last part if `follow` is set, and `jump` goes on from there.
-/
def walkParts (t : FileTree) (follow : Bool)
    (jump : Place → List Text → Except IoError Destination) :
    Place → List Text → Except IoError Destination
  | place, [] => .ok (.found place ((t.node? place).getD .directory))
  | place, name :: rest =>
    if name = [] ∨ name = ['.'] then walkParts t follow jump place rest
    -- above the root there is the root itself
    else if name = ['.', '.'] then walkParts t follow jump place.dropLast rest
    else if nameLimit < Text.byteSize name then .error .nameTooLong
    else
      match t.node? (place ++ [name]) with
      | none =>
        -- whether slashes may follow is left to who makes something there
        if rest.all List.isEmpty then .ok (.vacant (place ++ [name]) !rest.isEmpty)
        else .error .notFound
      | some .directory => walkParts t follow jump (place ++ [name]) rest
      | some (.link target) =>
        -- with a slash behind it, a link is followed in any case
        if rest = [] ∧ !follow then .ok (.found (place ++ [name]) (.link target))
        else jump (if Path.isAbsolute target then [] else place) (parts target ++ rest)
      | some node =>
        if rest = [] then .ok (.found (place ++ [name]) node) else .error .notADirectory

/-- Follows the parts of a path from a place, and no more than so many links on the way. -/
def walk (t : FileTree) (follow : Bool) : Nat → Place → List Text → Except IoError Destination
  | 0 => t.walkParts follow fun _ _ => .error .linkLoop
  | links + 1 => t.walkParts follow (t.walk follow links)

def destination (t : FileTree) (follow : Bool) (path : Text) : Except IoError Destination :=
  if path.elem '\x00' then .error .pathWithNul
  else if path.isEmpty then .error .notFound
  else if pathLimit ≤ Text.byteSize path then .error .nameTooLong
  else t.walk follow linkLimit (t.startOf path) (parts path)

end FileTree
end ContractAssist
