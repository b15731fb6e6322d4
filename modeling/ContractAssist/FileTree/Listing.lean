import ContractAssist.FileTree.Access

/-!
# Listing — all files below a directory

* `FileTree.filesBelow` gives the files below a place with their relative paths and contents; links
  to directories are followed, and a link that leads nowhere counts as an empty file.
-/

namespace ContractAssist
namespace FileTree

/-- Links may make a tree endless; a listing goes this deep. -/
def listingDepth : Nat := 64

def below (path name : Text) : Text :=
  if path.isEmpty then name else path ++ '/' :: name

mutual

/-- The files below a place, whose path from the start of the listing is `path`. -/
def listPlace (t : FileTree) (place : Place) (path : Text) : Nat → List (Text × Bytes)
  | 0 => []
  | depth + 1 => listNames t place path depth (t.namesBelow place)

def listNames (t : FileTree) (place : Place) (path : Text) (depth : Nat) :
    List Text → List (Text × Bytes)
  | [] => []
  | name :: r =>
    (match t.stat? (pathOf (place ++ [name])) with
      | .ok (inner, .directory) => listPlace t inner (below path name) depth
      | .ok (_, .file content _) => [(below path name, content)]
      | _ => [(below path name, [])])
      ++ listNames t place path depth r

end

def filesBelow (t : FileTree) (place : Place) : List (Text × Bytes) :=
  listPlace t place [] listingDepth

def isBackup (path : Text) : Bool :=
  (".bak" : Text).isSuffixOf path

def ordinaryFiles (t : FileTree) (place : Place) : List (Text × Text) :=
  ((t.filesBelow place).filter fun f => !isBackup f.1).map fun f => (f.1, Utf8.lossy f.2)

def before : Text → Text → Bool
  | [], _ => true
  | _ :: _, [] => false
  | a :: r, b :: s => if a = b then before r s else a.toNat < b.toNat

def backupTexts (t : FileTree) (place : Place) : List Text :=
  (((t.filesBelow place).filter fun f => isBackup f.1).map fun f => Utf8.lossy f.2).mergeSort
    before

end FileTree
end ContractAssist
