import ContractAssist.FileTree.Access
import ContractAssist.Shell.Pattern

/-!
# Field — from expanded words to arguments

A word expands to characters that know whether they were quoted. Unquoted values fall apart at
separators, and a field with active pattern characters becomes the paths that match it.

* `Fragment` is a part of an expanded word;
* `Field.split` gives the fields, `Field.paths` the paths of a field.
-/

namespace ContractAssist
namespace Shell

inductive Fragment where
  -- a character; can a field end at it?
  | char (c : Char) (quoted splits : Bool)
  -- there is a field, even without characters
  | mark
  | edge
  | cut
  deriving DecidableEq, Repr, Inhabited

namespace Fragment

/-- The fragments of characters as they stand; they can fall apart if `splits` is set. -/
def ofLiteral (quoted splits : Bool) (t : Text) : List Fragment :=
  if quoted then mark :: t.map fun c => char c true false else t.map fun c => char c false splits

def ofValue (quoted : Bool) (t : Text) : List Fragment :=
  if quoted then t.map fun c => char c true false else edge :: t.map fun c => char c false true

def ofValues (quoted : Bool) : List Text → List Fragment
  | [] => []
  | [t] => (if quoted then [mark] else []) ++ ofValue quoted t
  | t :: u :: r => (if quoted then [mark] else []) ++ ofValue quoted t ++ cut ::
      ofValues quoted (u :: r)

def patternChar? : Fragment → Option (Char × Bool)
  | char c quoted _ => some (c, quoted)
  | cut => some (' ', true)
  | _ => none

def text (fragments : List Fragment) : Text :=
  fragments.filterMap fun f => (f.patternChar?).map Prod.fst

end Fragment

namespace Field

def isBlankSeparator (c : Char) : Bool :=
  c = ' ' || c = '\t' || c = '\n'

/-- What may still belong to the end of the last field. -/
inductive Gap where
  | closed
  | blanks
  | separator
  deriving DecidableEq, Repr, Inhabited

/-- The fields of an expanded word; `current` is the begun field, its last character first. -/
def splitFrom (separators : Text) : List Fragment → Gap → Option Pattern → List Pattern
  | [], _, none => []
  | [], _, some field => [field.reverse]
  | .mark :: r, _, current => splitFrom separators r .closed (some (current.getD []))
  | .edge :: r, _, current => splitFrom separators r .closed current
  | .cut :: r, _, none => splitFrom separators r .closed none
  | .cut :: r, _, some field => field.reverse :: splitFrom separators r .closed none
  | .char c quoted splits :: r, gap, current =>
    if splits && separators.elem c then
      let blank := isBlankSeparator c
      match current with
      | some field =>
        field.reverse :: splitFrom separators r (if blank then .separator else .blanks) none
      | none =>
        if blank then splitFrom separators r gap none
        else if gap = .separator then splitFrom separators r .blanks none
        else [] :: splitFrom separators r .blanks none
    else splitFrom separators r .closed (some ((c, quoted) :: current.getD []))

def split (separators : Text) (fragments : List Fragment) : List Pattern :=
  splitFrom separators fragments .closed none

def text (p : Pattern) : Text :=
  p.map Prod.fst

/-! ## Paths -/

/-- The names in a directory, those of itself and of its parent included. -/
def namesIn (files : FileTree) (path : Text) : List Text :=
  match files.stat? (toText (if path.isEmpty then "." else path)) with
  | .ok (place, .directory) => ['.'] :: ['.', '.'] :: (files.namesBelow place).map ofText
  | _ => []

def isThere (files : FileTree) (path : Text) : Bool :=
  match files.destination false (toText path) with
  | .ok (.found _ _) => true
  | _ => false

def isDirectory (files : FileTree) (path : Text) : Bool :=
  files.isDirectory (toText path)

def parts : Pattern → List Pattern
  | [] => [[]]
  | (c, q) :: r =>
    if c = '/' then [] :: parts r
    else
      match parts r with
      | [] => [[(c, q)]]
      | part :: others => ((c, q) :: part) :: others

/-- The paths that begin with `path` and go on as the parts of a pattern say. -/
def pathsFrom (files : FileTree) (path : Text) : List Pattern → List Text
  | [] => []
  | [last] =>
    if Pattern.isActive last then
      let hidden := (text last).head? = some '.'
      let names := (namesIn files path).filter fun n =>
        (hidden || n.head? ≠ some '.') && Pattern.accepts last n
      names.map fun n => path ++ n
    else
      let found := path ++ text (Pattern.unescaped last)
      if isThere files found then [found] else []
  | part :: next :: r =>
    if Pattern.isActive part then
      let hidden := (text part).head? = some '.'
      let names := (namesIn files path).filter fun n =>
        (hidden || n.head? ≠ some '.') && Pattern.accepts part n && isDirectory files (path ++ n)
      names.flatMap fun n => pathsFrom files (path ++ n ++ "/") (next :: r)
    else pathsFrom files (path ++ text (Pattern.unescaped part) ++ "/") (next :: r)

def before : Text → Text → Bool
  | [], _ => true
  | _ :: _, [] => false
  | a :: r, b :: s => if a = b then before r s else a.toNat < b.toNat

/-- The paths that match a field, in order; if there are none, the field itself. -/
def paths (files : FileTree) (p : Pattern) : List Text :=
  if !Pattern.isActive p then [text p]
  else
    match (pathsFrom files [] (parts p)).mergeSort before with
    | [] => [text p]
    | found => found

end Field
end Shell
end ContractAssist
