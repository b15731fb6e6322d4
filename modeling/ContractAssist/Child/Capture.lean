import ContractAssist.Child.Launch
import ContractAssist.Child.Stage
import ContractAssist.LogLine

/-!
# Capture — a command that runs unattended

* `Capture.run` runs a command without input: its ending and its output, or why there is none;
* `Capture.code` is the code that stands for an ending.
-/

namespace ContractAssist

/-- What a command that ran unattended came to. -/
structure Captured where
  ending : Ending
  output : Bytes
  diagnostics : Bytes
  deriving DecidableEq, Repr, Inhabited

namespace Capture

/-- A machine carries out at most so many requests of programs. -/
def patience : Nat := 100000000

def written (kind : StreamKind) (signals : List Signal) : Bytes :=
  signals.flatMap fun signal =>
    match signal with
    | .said k bytes => if k = kind then bytes else []
    | _ => []

/-- What a command came to that can do nothing more. -/
def result? (s : Stage) : Option Captured :=
  match s.ending? 0, s.writable with
  | some how, [] =>
    some ⟨how, written .output s.signals.reverse, written .diagnostics s.signals.reverse⟩
  | _, _ => none

/-- Lets a command run up to an instant, or without a limit; `fuel` bounds the number of wakes. -/
def runWithin (limit : Option Instant) : Nat → Stage → Option Captured × Stage
  | 0, s => (none, s)
  | fuel + 1, s =>
    let s := s.settle patience
    match result? s with
    | some captured => (some captured, s)
    | none =>
      match s.nextWake? with
      | none => (none, s)
      | some wake =>
        if limit.all fun i => i.reached wake then runWithin limit fuel { s with clock := wake }
        else (none, s)

def timedOut (i : Invocation) : LogLine :=
  ⟨.warn, "command timed out after " ++ i.timeout.format, [("command", i.display)]⟩

/-- Runs a command without input, and gives the files after it. -/
def run (files : FileTree) (vars : Variables) (i : Invocation) :
    Except RunError Captured × List LogLine × FileTree :=
  match Launch.behaviour? files vars .nothing i with
  | .error cause => (.error (.spawn i.program cause), [], files)
  | .ok behaviour =>
    match runWithin (some ⟨i.timeout.nanos⟩) patience (Stage.new files behaviour) with
    | (some captured, s) => (.ok captured, [], s.files)
    | (none, s) => (.error (.timedOut i.timeout), [timedOut i], s.files)

def code (c : Captured) : Int :=
  match c.ending with
  | .code n => n
  | .signal _ => -1

end Capture
end ContractAssist
