import ContractAssist.FileTree.Access

/-!
# Preflight — a look at a contract before it is deployed

* `Preflight.check` finds out whether there is a file, and what the user should know about it.
-/

namespace ContractAssist

structure Preflight where
  contract : Text
  warnings : List Text
  deriving DecidableEq, Repr, Inhabited

namespace Preflight

/-- Expected in the first line of a contract. -/
def marker : Text := "\"Depends\""

def isHeader (line : Text) : Bool :=
  let text := Text.trim (line.dropWhile (· == '\uFEFF'))
  text.head? == some '#' && Text.contains marker text

def missingHeader (path : Text) : Text :=
  path ++ " does not start with a `# \x7b \"Depends\": ... \x7d` header; "
    ++ "the deploy CLI may reject it"

def unreadable (path : Text) (e : IoError) : Text :=
  "could not read " ++ path ++ ": " ++ e.message

/-- What the user should know about the first line of a file. -/
def remarks (t : FileTree) (path : Text) : List Text :=
  match t.read? path with
  | .error e => [unreadable path e]
  | .ok content =>
    match Utf8.decode? (Utf8.firstLine content).1 with
    | none => [unreadable path .notText]
    | some line => if isHeader line then [] else [missingHeader path]

/-- Looks at a contract. Only a missing file, or something else of that name, is an error. -/
def check (t : FileTree) (path : Text) : Except DeployError Preflight :=
  if !t.pathExists path then .error (.missingContract path)
  else if !t.isFile path then .error (.notAFile path)
  else
    let contract := match t.canonicalize? path with
      | .ok absolute => absolute
      | .error _ => path
    .ok ⟨contract, remarks t path⟩

end Preflight
end ContractAssist
