import ContractAssist.FileTree.Listing
import ContractAssist.Shell.Program.Basic

/-!
# Directory — the program that lists directories

* `Program.ls` lists paths: first those that are no directories, then directories with what they
  hold, each group in the order of the names.
-/

namespace ContractAssist
namespace Shell
namespace Program

structure ListingStyle where
  -- are names with a dot in front listed?
  hidden : Bool
  -- are the directory itself and the one around it listed?
  dots : Bool
  flat : Bool
  deep : Bool
  reversed : Bool
  slashes : Bool
  marks : Bool
  deriving DecidableEq, Repr, Inhabited

namespace ListingStyle

def ofOptions (o : Options) : ListingStyle where
  hidden := o.has 'a' || o.has 'A' || o.has 'f'
  dots := match o.last? ['a', 'A', 'f'] with
    | some letter => letter ≠ 'A'
    | none => false
  flat := o.has 'd'
  deep := o.has 'R'
  reversed := o.has 'r'
  slashes := o.has 'p' || o.has 'F'
  marks := o.has 'F'

def mark (l : ListingStyle) (node : Node) : Text :=
  match node with
  | .directory => if l.slashes then ['/'] else []
  | .link _ => if l.marks then ['@'] else []
  | .file _ true => if l.marks then ['*'] else []
  | .program _ => if l.marks then ['*'] else []
  | _ => []

def sorted (l : ListingStyle) (names : List Text) : List Text :=
  let names := names.mergeSort FileTree.before
  if l.reversed then names.reverse else names

def namesIn (l : ListingStyle) (files : FileTree) (place : Place) : List Text :=
  let names := (files.namesBelow place).map ofText
  let dots : List Text := if l.dots then [".", ".."] else []
  l.sorted (dots ++ names.filter fun n => l.hidden || n.head? ≠ some '.')

def nodeAt (files : FileTree) (place : Place) (name : Text) : Node :=
  (files.node? (place ++ [toText name])).getD .directory

def innerOf (l : ListingStyle) (files : FileTree) (place : Place) : List Text :=
  (l.namesIn files place).filter fun n =>
    n ≠ ['.'] && n ≠ ['.', '.'] && nodeAt files place n = .directory

def content (l : ListingStyle) (files : FileTree) (place : Place) : Text :=
  (l.namesIn files place).flatMap fun n => n ++ l.mark (nodeAt files place n) ++ "\n"

mutual

/-- The parts of the listing of a directory with those in it. -/
def partsOf (l : ListingStyle) (files : FileTree) : Nat → Text → Place → List Text
  | 0, _, _ => []
  | depth + 1, path, place =>
    (path ++ ":\n" ++ l.content files place) ::
      partsIn l files depth path place (l.innerOf files place)

def partsIn (l : ListingStyle) (files : FileTree) (depth : Nat) (path : Text) (place : Place) :
    List Text → List Text
  | [] => []
  | name :: r =>
    let inner := if path.getLast? = some '/' then path ++ name else path ++ '/' :: name
    partsOf l files depth inner (place ++ [toText name]) ++ partsIn l files depth path place r

end

def parts (l : ListingStyle) (files : FileTree) (titled : Bool) (path : Text) (place : Place) :
    List Text :=
  if l.deep then partsOf l files FileTree.listingDepth path place
  else [(if titled then path ++ ":\n" else []) ++ l.content files place]

end ListingStyle

/-- A path that is listed, with what it leads to. -/
inductive Listed where
  | directory (path : Text) (place : Place)
  | other (path : Text) (node : Node)
  deriving DecidableEq, Repr, Inhabited

/-- What a path leads to; a link that leads to no directory stands for itself. -/
def Listed.ofPath? (files : FileTree) (l : ListingStyle) (path : Text) : Except IoError Listed :=
  let direct := files.destination (l.marks || l.flat) (toText path)
  match files.stat? (toText path), direct with
  | .ok (place, .directory), _ =>
    .ok (if l.flat then .other path .directory else .directory path place)
  | .ok (_, node), .ok (.found _ _) => .ok (.other path node)
  | .error e, _ =>
    match files.destination false (toText path) with
    | .ok (.found _ node) => .ok (.other path node)
    | _ => .error e
  | .ok (_, node), _ => .ok (.other path node)

/-- Finds what paths lead to, and complains about those that lead to nothing. -/
def findAll (name : Text) (l : ListingStyle) : List Text → Act (List Listed × Nat)
  | [] => pure ([], 0)
  | path :: r => do
    match Listed.ofPath? (← Act.tree) l path with
    | .ok found => do
      let (others, status) ← findAll name l r
      return (found :: others, status)
    | .error e => do
      complain name ("cannot access " ++ shellQuoted path ++ ": " ++ e.text)
      let (others, _) ← findAll name l r
      return (others, 2)

def ls : Program :=
  withOptions 2 "1aAdfrRpFltSUogQNhikmnqsuxcCGLHBXv"
    (longOptions [("all", 'a'), ("almost-all", 'A'), ("directory", 'd'), ("reverse", 'r'),
      ("recursive", 'R'), ("classify", 'F')] []) fun name o => do
        let l := ListingStyle.ofOptions o
        let paths := if o.others.isEmpty then [['.']] else o.others
        let (found, status) ← findAll name l (l.sorted paths)
        let files ← Act.tree
        let others := found.flatMap fun x =>
          match x with
          | .other path node => path ++ l.mark node ++ ['\n']
          | .directory _ _ => []
        let listings := found.flatMap fun x =>
          match x with
          | .directory path place => l.parts files (1 < paths.length) path place
          | .other _ _ => []
        let whole := (if others.isEmpty then [] else [others]) ++ listings
        let written ← write name (Text.joinWith "\n" whole)
        return max status written

end Program
end Shell
end ContractAssist
