import ContractAssist.Shell.Program.Basic

/-!
# Paths — programs that work on the text of paths

* `Program.basename` and `Program.dirname` cut paths;
* `Program.readlink` and `Program.realpath` follow links.
-/

namespace ContractAssist
namespace Shell
namespace Program

def withoutSlashes (path : Text) : Text :=
  (path.reverse.dropWhile (· = '/')).reverse

def dirnameOf (path : Text) : Text :=
  let whole := withoutSlashes path
  if whole.isEmpty then (if path.isEmpty then ['.'] else ['/'])
  else
    let front := (whole.reverse.dropWhile (· ≠ '/')).reverse
    if front.isEmpty then ['.']
    else
      let directory := withoutSlashes front
      if directory.isEmpty then ['/'] else directory

def basenameOf (path : Text) : Text :=
  let whole := withoutSlashes path
  if whole.isEmpty then path.take 1 else (whole.reverse.takeWhile (· ≠ '/')).reverse

def withoutEnding (ending name : Text) : Text :=
  if ending.isSuffixOf name && ending ≠ name then name.take (name.length - ending.length) else name

def endOf (o : Options) : Text :=
  [if o.has 'z' then '\x00' else '\n']

def dirname : Program :=
  withOptions 1 "z" (longOptions [("zero", 'z')] []) fun name o =>
    if o.others.isEmpty then missing name
    else write name (o.others.flatMap fun path => dirnameOf path ++ endOf o)

def basename : Program := fun name arguments =>
  match Options.withLong "as:z" (longOptions [("multiple", 'a'), ("zero", 'z')] [("suffix", 's')])
      false none arguments with
  | .error fault => misuse 1 name (faultText fault)
  | .ok o =>
    let short (ending path : Text) : Text := withoutEnding ending (basenameOf path) ++ endOf o
    if o.has 'a' || o.has 's' then
      if o.others.isEmpty then missing name
      else write name (o.others.flatMap (short ((o.argument? 's').getD [])))
    else
      match o.others with
      | [] => missing name
      | [path] => write name (short [] path)
      | [path, ending] => write name (short ending path)
      | _ :: _ :: third :: _ => extra name third

inductive Presence where
  | whole
  | directory
  | nothing
  deriving DecidableEq, Repr, Inhabited

/-- The path of the place that a path leads to, or would lead to. -/
def canonical? (files : FileTree) (presence : Presence) (path : Text) : Except IoError Text :=
  match files.destination true (toText path) with
  | .ok (.found place _) => .ok (ofText (FileTree.pathOf place))
  | .ok (.vacant place _) =>
    if presence = .whole then .error .notFound else .ok (ofText (FileTree.pathOf place))
  | .error e =>
    if presence = .nothing && !path.isEmpty then .ok path else .error e

/-- How much of a path has to be there, as options ask for. -/
def presenceOf (o : Options) : Presence :=
  match o.last? ['e', 'm'] with
  | some 'e' => .whole
  | some _ => .nothing
  | none => .directory

def targetOf? (files : FileTree) (path : Text) : Except IoError Text :=
  match files.destination false (toText path) with
  | .ok (.found _ (.link target)) => .ok (ofText target)
  | .ok (.found _ _) => .error (.other "Invalid argument")
  | .ok (.vacant _ _) => .error .notFound
  | .error e => .error e

def readlink : Program :=
  withOptions 1 "femnqsvz" (longOptions [("canonicalize", 'f'), ("canonicalize-existing", 'e'),
    ("canonicalize-missing", 'm'), ("no-newline", 'n'), ("quiet", 'q'), ("silent", 's'),
    ("verbose", 'v'), ("zero", 'z')] []) fun name o => do
      let files ← Act.tree
      let follows := o.has 'f' || o.has 'e' || o.has 'm'
      let ending := if o.has 'n' && o.others.length = 1 then [] else endOf o
      if o.others.isEmpty then missing name
      else
        forAll (fun path => do
          let found := if follows then canonical? files (presenceOf o) path
            else targetOf? files path
          match found with
          | .ok target => write name (target ++ ending)
          | .error e => do
            if o.has 'v' then complainOf name path e
            return 1) o.others

def realpath : Program :=
  withOptions 1 "emLPqsz" (longOptions [("canonicalize-existing", 'e'),
    ("canonicalize-missing", 'm'), ("quiet", 'q'), ("strip", 's'), ("zero", 'z')] [])
    fun name o => do
      let files ← Act.tree
      if o.others.isEmpty then missing name
      else
        forAll (fun path => do
          match canonical? files (presenceOf o) path with
          | .ok target => write name (target ++ endOf o)
          | .error e => do
            if !o.has 'q' then complainOf name path e
            return 1) o.others

end Program
end Shell
end ContractAssist
