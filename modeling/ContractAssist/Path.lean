import ContractAssist.Text.Basic

/-!
# Path — names of files, as texts

A path is a text whose parts are separated by slashes. Repeated slashes, a slash at the end, and a
part `.` that is not the first one carry no meaning; `..` is a part like any other. These functions
look at the text only, never at files.

* `Path.parent?` cuts the last part off;
* `Path.fileName?` is the last part, if it names something;
* `Path.join` and `Path.withFileName` put paths together.
-/

namespace ContractAssist
namespace Path

def isSeparator (c : Char) : Bool := c == '/'

def isAbsolute (p : Text) : Bool :=
  p.head? == some '/'

/-! ## Taking paths apart -/

def startsHere : Text → Bool
  | ['.'] => true
  | '.' :: '/' :: _ => true
  | _ => false

/-- The beginning that is not an ordinary part: the root, or a first part `.`. -/
def anchor (p : Text) : Text :=
  if isAbsolute p then "/" else if startsHere p then "." else []

/-- What follows the anchor, last character first, without meaningless parts in front. -/
def dropIdle : Text → Text
  | [] => []
  | ['.'] => []
  | '.' :: '/' :: r => dropIdle r
  | '/' :: r => dropIdle r
  | c :: r => c :: r

def bodyReversed (p : Text) : Text :=
  dropIdle (p.drop (anchor p).length).reverse

/-- The last part after the anchor, or nothing. -/
def lastPart (p : Text) : Text :=
  ((bodyReversed p).takeWhile fun c => !isSeparator c).reverse

/--
The path without its last part: the beginning of the same text. The root and the empty path have no
parent.
-/
def parent? (p : Text) : Option Text :=
  match bodyReversed p with
  | [] => if startsHere p then some [] else none
  | body =>
    let before := (body.dropWhile fun c => !isSeparator c).drop 1
    some (anchor p ++ (dropIdle before).reverse)

/-- The last part, unless it is missing or `..`. -/
def fileName? (p : Text) : Option Text :=
  let part := lastPart p
  if part = [] ∨ part = (".." : Text) then none else some part

/-! ## Putting paths together -/

/-- The path `p` as seen from the directory `dir`. -/
def join (dir p : Text) : Text :=
  if isAbsolute p then p
  else if dir = [] ∨ dir.getLast? = some '/' then dir ++ p
  else dir ++ "/" ++ p

def withFileName (p name : Text) : Text :=
  match fileName? p with
  | some _ => join ((parent? p).getD []) name
  | none => join p name

end Path
end ContractAssist
