import ContractAssist.FileTree.Access
import ContractAssist.Settings.Load
import ContractAssist.Settings.Template

/-!
# Establish — writing the settings file of the user

A fresh settings file is written only where none is, unless that is forced; then the old file is
first copied to a name of its own.

* `Storage` is a file tree that may refuse requests;
* `Settings.backupPath` finds the name of the copy;
* `Settings.establish` writes the file, and `Established` says what was done.
-/

namespace ContractAssist

/-- A file tree, and what it will refuse: one entry for each request to come. -/
structure Storage where
  tree : FileTree
  -- refusals to come; requests beyond them are not refused
  refusals : List (Option IoError)
  deriving DecidableEq, Repr, Inhabited

namespace Storage

/-- Makes a request that looks; a refused look sees nothing. -/
def look (s : Storage) (see : FileTree → Bool) : Bool × Storage :=
  match s.refusals with
  | some _ :: r => (false, { s with refusals := r })
  | _ => (see s.tree, { s with refusals := s.refusals.tail })

def change (s : Storage) (request : FileTree → Except IoError FileTree) :
    Except IoError Unit × Storage :=
  match s.refusals with
  | some e :: r => (.error e, { s with refusals := r })
  | _ =>
    match request s.tree with
    | .ok tree => (.ok (), ⟨tree, s.refusals.tail⟩)
    | .error e => (.error e, { s with refusals := s.refusals.tail })

end Storage

namespace Settings

inductive Established where
  | created (path : Text)
  | alreadyThere (path : Text)
  -- it was there, was copied and written anew
  | overwritten (path backup : Text)
  deriving DecidableEq, Repr, Inhabited

/-! ## Backups -/

/-- How many names are tried for a backup. -/
def backupNames : Nat := 1000

def backedUpName (path : Text) : Text :=
  (Path.fileName? path).getD userFile

def backupName (path : Text) (time n : Nat) : Text :=
  backedUpName path ++ "." ++ Text.ofNat time
    ++ (if n = 0 then [] else '.' :: Text.ofNat n) ++ ".bak"

/-- The path of backup number `n` of a file, next to it. -/
def backupCandidate (path : Text) (time n : Nat) : Text :=
  Path.withFileName path (backupName path time n)

/-- The first of `left` paths, from number `n` on, that leads to nothing. -/
def freeBackup (path : Text) (time : Nat) : Nat → Nat → Storage → Option Text × Storage
  | 0, _, s => (none, s)
  | left + 1, n, s =>
    match s.look fun t => t.pathExists (backupCandidate path time n) with
    | (true, s') => freeBackup path time left (n + 1) s'
    | (false, s') => (some (backupCandidate path time n), s')

/-- The path of a backup; when all names are taken, that of the process. -/
def backupPath (path : Text) (time process : Nat) (s : Storage) : Text × Storage :=
  match freeBackup path time backupNames 0 s with
  | (some candidate, s') => (candidate, s')
  | (none, s') => (backupCandidate path time process, s')

/-! ## Writing -/

def templateBytes : Bytes := Utf8.encode template

/-- Copies the file and writes it anew. -/
def overwrite (path : Text) (time process : Nat) (s : Storage) :
    Except SettingsError Established × Storage :=
  match backupPath path time process s with
  | (backup, s₁) =>
    match s₁.change fun t => t.copy? path backup with
    | (.error e, s₂) => (.error (.io e), s₂)
    | (.ok (), s₂) =>
      match s₂.change fun t => t.write? path templateBytes with
      | (.error e, s₃) => (.error (.io e), s₃)
      | (.ok (), s₃) => (.ok (.overwritten path backup), s₃)

/-- Writes the file where nothing is. -/
def create (path : Text) (s : Storage) : Except SettingsError Established × Storage :=
  match s.change fun t => t.createNew? path [] with
  -- somebody was faster, or a link that leads nowhere is in the place
  | (.error .alreadyExists, s₁) => (.ok (.alreadyThere path), s₁)
  | (.error e, s₁) => (.error (.io e), s₁)
  | (.ok (), s₁) =>
    match s₁.change fun t => t.write? path templateBytes with
    | (.error e, s₂) => (.error (.io e), s₂)
    | (.ok (), s₂) => (.ok (.created path), s₂)

def makeParent (path : Text) (s : Storage) : Except IoError Unit × Storage :=
  match Path.parent? path with
  | none => (.ok (), s)
  | some parent => s.change fun t => t.makeDirs? parent

/-- Writes the settings file at a path, at a time in seconds, as a process with a number. -/
def establish (path : Text) (force : Bool) (time process : Nat) (s : Storage) :
    Except SettingsError Established × Storage :=
  match makeParent path s with
  | (.error e, s₁) => (.error (.io e), s₁)
  | (.ok (), s₁) =>
    match s₁.look fun t => t.pathExists path with
    -- also where a look was refused: that nothing is lost then is up to the request that creates
    | (false, s₂) => create path s₂
    | (true, s₂) =>
      if force then overwrite path time process s₂ else (.ok (.alreadyThere path), s₂)

def noUserPath : Text :=
  "unable to resolve config path for ~/.config/genvm-assist/config.toml"

def establishUser (root : Option Text) (force : Bool) (time process : Nat) (s : Storage) :
    Except SettingsError Established × Storage :=
  match root with
  | none => (.error (.invalid noUserPath), s)
  | some dir => establish (userPath dir) force time process s

end Settings
end ContractAssist
