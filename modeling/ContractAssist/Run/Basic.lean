import ContractAssist.Error
import ContractAssist.Invocation
import ContractAssist.LogLine
import ContractAssist.Prompt.Resolution
import ContractAssist.Prompt.Session
import ContractAssist.Stream.Reader

/-!
# Run — an external command that is attended

A run watches the output of one child program, has its questions answered, and looks for the address
that the child reports. It is a value that changes with each event, and everything it wants done is
an effect in the answer.

* `Exit` is what is known about the end of the child, `Outcome` what a run comes to;
* `Run.Event` is what can happen to a run, `Run.Effect` what a run wants done;
* `Run` is the state between two events.
-/

namespace ContractAssist

/-! ## Ends -/

inductive Ending where
  | code (n : Nat)
  | signal (number : Nat)
  deriving DecidableEq, Repr, Inhabited

/-- The code of a program that ended by itself. -/
def Ending.code? : Ending → Option Nat
  | code n => some n
  | signal _ => none

inductive Exit where
  | ended (how : Ending)
  | unknown (cause : IoError)
  deriving DecidableEq, Repr, Inhabited

structure Outcome where
  success : Bool
  -- all output, in the order of its arrival
  output : Text
  address? : Option Text
  message : Text
  -- the code of a child that ended by itself
  exitCode? : Option Nat
  deriving DecidableEq, Repr, Inhabited

def Outcome.failure (output message : Text) : Outcome :=
  ⟨false, output, none, message, none⟩

structure RunOptions where
  -- how long the text of a question may grow
  debounce : Duration
  minPasswordLength : Nat
  deriving DecidableEq, Repr, Inhabited

namespace Run

/-! ## Events and effects -/

/-- What a look at the child shows. -/
structure Glimpse where
  exit? : Option Exit
  refusal? : Option IoError
  deriving DecidableEq, Repr, Inhabited

inductive Event where
  | chunk (chunk : Chunk)
  | streamsClosed
  | exited (exit : Exit)
  | settled (glimpse : Glimpse)
  | answered (answer : Answer) (glimpse : Glimpse)
  | expired
  deriving DecidableEq, Repr, Inhabited

inductive Effect where
  | ask (question : Question)
  | write (line : Text)
  | closeInput
  | present (chunk : Chunk)
  | log (line : LogLine)
  | kill
  deriving DecidableEq, Repr, Inhabited

inductive Phase where
  | listening
  | resolving (prompt : Prompt) (exchange : Resolution)
  | over (outcome : Outcome)
  deriving DecidableEq, Repr, Inhabited

end Run

/-- An external command that is attended. -/
structure Run where
  invocation : Invocation
  minPasswordLength : Nat
  session : Session
  phase : Run.Phase
  streamsOpen : Bool
  exit? : Option Exit
  -- the chunks that arrived, the latest first
  heard : List Chunk
  -- the last characters of the output, where an address may have begun
  recent : Text
  address? : Option Text
  inputOpen : Bool
  deriving DecidableEq, Repr, Inhabited

namespace Run

/-- All output, in the order of its arrival. -/
def output (r : Run) : Text :=
  r.heard.reverse.flatMap Chunk.text

/-- No run waits longer than a year. -/
def longestWait : Duration :=
  .ofSeconds (365 * 24 * 60 * 60)

/-- When the time of a run that starts now is over. -/
def deadline (invocation : Invocation) (now : Instant) : Instant :=
  now.afterOrSame (invocation.timeout.atMost longestWait)

/-- When the text of the current question has had its time; only a run that listens waits for it. -/
def nextSettling? (r : Run) : Option Instant :=
  match r.phase with
  | .listening => r.session.nextDeadline?
  | _ => none

def outcome? (r : Run) : Option Outcome :=
  match r.phase with
  | .over outcome => some outcome
  | _ => none

end Run
end ContractAssist
