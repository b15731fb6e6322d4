import ContractAssist.Shell.State

/-!
# Opening — channels to files

* `Act.openPath` opens what a path leads to, which may be made first.
-/

namespace ContractAssist
namespace Shell
namespace Act

/-- The channel that a path stands for among those that are open. -/
def ownChannel? (path : Text) : Option Nat :=
  match String.ofList path with
  | "/dev/stdin" => some 0
  | "/dev/stdout" => some 1
  | "/dev/stderr" => some 2
  | _ =>
    match Text.afterFront? "/dev/fd/" path with
    | some n => if !n.isEmpty && n.all Char.isDigit then some (Text.decimalValue n) else none
    | none => none

def openNode (mode : FileMode) (place : Place) : Node → Act (Except IoError Channel)
  | .file _ runnable => do
    if mode = .write || mode = .clobber then
      let files ← tree
      setTree (files.put place (.file [] runnable))
    return .ok (← openChannel (.file place 0 (mode = .append)))
  | .device .absent => return .error .noDevice
  | .device kind => return .ok (.device kind)
  | _ => return .ok .nothing

/-- Opens what a path leads to; files that are there can be protected from being overwritten. -/
def openTarget (mode : FileMode) (path : Text) : Act (Except IoError Channel) := do
  let files ← tree
  let isProtected := mode = .write && (← get).has 'C'
  match files.destination true (toText path) with
  | .error e => return .error e
  | .ok (.found place node) =>
    match node with
    | .directory => if mode = .read then openNode mode place node else return .error .isADirectory
    | .file _ _ => if isProtected then return .error .alreadyExists else openNode mode place node
    | _ => openNode mode place node
  | .ok (.vacant place slash) =>
    if mode = .read then return .error .notFound
    else if slash then return .error .isADirectory
    else
      setTree (files.put place (.file [] false))
      return .ok (← openChannel (.file place 0 (mode = .append)))

/-- Opens what a path leads to, or one of the channels that are open. -/
def openPath (mode : FileMode) (path : Text) : Act (Except IoError Channel) := do
  match ownChannel? path with
  | none => openTarget mode path
  | some number =>
    match (← get).channel? number with
    | some channel => return .ok channel
    | none => return .error .notFound

end Act
end Shell
end ContractAssist
