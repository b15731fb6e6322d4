import ContractAssist.FileTree.Access

/-!
# Machine — a file tree to start from

* `FileTree.bare` is a machine with a shell and a few programs;
* `FileTree.withDirs`, `FileTree.withFile` and `FileTree.withLinks` furnish its working directory.
-/

namespace ContractAssist
namespace FileTree

def installedNames : List Text :=
  (["[", "basename", "cat", "chmod", "cp", "cut", "dash", "date", "dirname", "echo", "env",
    "expr", "false", "head", "id", "ln", "ls", "mkdir", "mktemp", "mv", "nice", "nl", "nohup",
    "printenv", "printf", "pwd", "readlink", "realpath", "rev", "rm", "rmdir", "seq", "setsid",
    "sh", "sleep", "sort", "stdbuf", "stty", "tac", "tail", "tee", "test", "timeout", "touch", "tr",
    "true", "tty", "uname", "uniq", "wc", "whoami", "xargs", "yes"] : List String).map String.toList

def systemDirs : List Place :=
  [["usr"], ["usr", "bin"], ["dev"], ["etc"], ["home"], ["proc"], ["root"], ["tmp"], ["var"]]

def devices : List (Text × Device) :=
  ([("null", .sink), ("zero", .zeros), ("full", .full), ("random", .zeros), ("urandom", .zeros),
    ("tty", .absent)] : List (String × Device)).map fun d => (d.1.toList, d.2)

/-- A machine whose working directory, below that for temporary files, is empty. -/
def bare (scratch : Text) : FileTree :=
  let place : Place := [("tmp" : Text), scratch]
  let program (name : Text) : Place × Node := (["usr", "bin", name], .program name)
  let device (d : Text × Device) : Place × Node := (["dev", d.1], .device d.2)
  ⟨(systemDirs.map fun d => (d, Node.directory)) ++ [((["bin"] : Place), Node.link "usr/bin")]
      ++ installedNames.map program ++ devices.map device ++ [(place, Node.directory)], place⟩

def withDirs (paths : List Text) (t : FileTree) : Except IoError FileTree :=
  paths.foldlM (fun t path => t.makeDirs? path) t

def withFile (t : FileTree) (path : Text) (content : Bytes) (runnable : Bool) :
    Except IoError FileTree := do
  let t ← t.makeDirs? ((Path.parent? path).getD [])
  match ← t.destination true path with
  | .found place (.file _ _) => return t.put place (.file content runnable)
  | .found _ _ => .error .isADirectory
  | .vacant place _ => return t.put place (.file content runnable)

/-- Makes symbolic links; each has a path and a target. -/
def withLinks (links : List (Text × Text)) (t : FileTree) : Except IoError FileTree :=
  links.foldlM
    (fun t link => do
      let t ← t.makeDirs? ((Path.parent? link.1).getD [])
      match ← t.destination false link.1 with
      | .found _ _ => .error .alreadyExists
      | .vacant place _ => return t.put place (.link link.2))
    t

end FileTree
end ContractAssist
