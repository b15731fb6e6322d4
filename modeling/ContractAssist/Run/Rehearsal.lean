import ContractAssist.Child.Launch
import ContractAssist.Child.Stage
import ContractAssist.Prompt.AnswerSource
import ContractAssist.Run.Step

/-!
# Rehearsal — a run on a stage

A rehearsal brings a run together with its child on a stage and with an attendant who answers
questions and is shown the output. It turns what happens on the stage into events of the run, and
does what the run wants done.

* `Attendant` is who answers and looks on, `Turn` how a question is answered;
* `Rehearsal.advance?` goes on by one event;
* `Rehearsal.perform` runs a command from its start to its outcome.

What happens at one instant happens in a fixed order: an answer that is there already, what the
child did, the end of a question's time to grow, an answer that was waited for, the end of the time.
-/

namespace ContractAssist

/-! ## Attendants -/

/-- How a question is answered. -/
structure Turn (σ : Type) where
  -- the answer; without one, the question stays open
  answer : Option Answer
  -- is the end of the child waited for first, so that nobody else learns how it ended?
  reaps : Bool
  blocks : Duration
  delay : Duration
  after : σ

namespace Turn

def immediate {σ : Type} (answer : Answer) (after : σ) : Turn σ :=
  ⟨some answer, false, ⟨0⟩, ⟨0⟩, after⟩

end Turn

/-- Who answers questions and is shown what a run does. -/
structure Attendant (σ : Type) where
  answer : σ → Question → Turn σ
  present : σ → Chunk → σ
  log : σ → LogLine → σ
  -- so long nothing else can happen while output is shown
  presentingBlocks : Duration
  -- is the end of the child waited for while output is shown?
  presentingReaps : Bool

/-! ## Rehearsals -/

structure Rehearsal (σ : Type) where
  stage : Stage
  run : Run
  deadline : Instant
  -- the bytes of a character that the output ended in
  outputCarry : Utf8.Carry
  -- the bytes of a character that the diagnostics ended in
  diagnosticsCarry : Utf8.Carry
  openStreams : Nat
  -- what happened on the stage and has not been told yet
  news : List Signal
  -- the answer to the open question, and when it comes
  pending : Option (Instant × Answer)
  reaped : Bool
  company : σ

namespace Rehearsal

variable {σ : Type}

/-- A machine carries out at most so many requests of programs. -/
def patience : Nat := 100000000

/-! ## The child -/

def exitOf (r : Rehearsal σ) (how : Ending) : Exit :=
  if r.reaped then .unknown .noChild else .ended how

def glimpse (r : Rehearsal σ) : Run.Glimpse where
  exit? := (r.stage.ending? 0).map r.exitOf
  refusal? := if r.stage.isHeld .input then none else some .brokenPipe

/-- Waits for the end of the child, so that nobody else learns how it ended. -/
def reap (r : Rehearsal σ) : Rehearsal σ :=
  { r with stage := r.stage.advanceToEnd patience, reaped := true }

/-- Lets time pass in which nothing else happens. -/
def block (span : Duration) (r : Rehearsal σ) : Rehearsal σ :=
  if span.nanos = 0 then r
  else { r with stage := r.stage.advanceTo ⟨r.stage.clock.nanos + span.nanos⟩ patience }

/-! ## Effects -/

def ask (a : Attendant σ) (r : Rehearsal σ) (question : Question) : Rehearsal σ :=
  let turn := a.answer r.company question
  let r := { r with company := turn.after }
  match turn.answer with
  | none => { r with pending := none }
  | some answer =>
    let r := (if turn.reaps then r.reap else r).block turn.blocks
    { r with pending := some (⟨r.stage.clock.nanos + turn.delay.nanos⟩, answer) }

def carryOut (a : Attendant σ) (r : Rehearsal σ) : Run.Effect → Rehearsal σ
  | .ask question => r.ask a question
  | .write line => { r with stage := r.stage.write (Utf8.encode line) }
  | .closeInput => { r with stage := r.stage.closeInput }
  | .present chunk =>
    let r := { r with company := a.present r.company chunk }
    (if a.presentingReaps then r.reap else r).block a.presentingBlocks
  | .log line => { r with company := a.log r.company line }
  | .kill => { r with stage := r.stage.kill }

/-- Tells the run an event and does what it wants done. -/
def tell (a : Attendant σ) (r : Rehearsal σ) (event : Run.Event) : Rehearsal σ :=
  let (run, effects) := r.run.step r.stage.clock event
  effects.foldl (carryOut a) { r with run := run }

/-! ## Signals -/

def tellText (a : Attendant σ) (r : Rehearsal σ) (kind : StreamKind) (text : Text) :
    Rehearsal σ :=
  if text.isEmpty then r else r.tell a (.chunk ⟨kind, text⟩)

def tellPiece (a : Attendant σ) (kind : StreamKind) (r : Rehearsal σ) (piece : Bytes) :
    Rehearsal σ :=
  match kind with
  | .output =>
    let (carry, text) := r.outputCarry.feed piece
    { r with outputCarry := carry }.tellText a kind text
  | .diagnostics =>
    let (carry, text) := r.diagnosticsCarry.feed piece
    { r with diagnosticsCarry := carry }.tellText a kind text

/-- Tells the run that a stream is at its end, and that all streams are. -/
def tellClosed (a : Attendant σ) (r : Rehearsal σ) (kind : StreamKind) : Rehearsal σ :=
  let left := match kind with
    | .output => r.outputCarry.flush
    | .diagnostics => r.diagnosticsCarry.flush
  let r := r.tellText a kind left
  let r := { r with openStreams := r.openStreams - 1 }
  if r.openStreams = 0 then r.tell a .streamsClosed else r

def tellSignal (a : Attendant σ) (r : Rehearsal σ) : Signal → Rehearsal σ
  | .said kind bytes => (Reader.pieces bytes).foldl (tellPiece a kind) r
  | .closed kind => r.tellClosed a kind
  | .exited how => r.tell a (.exited (r.exitOf how))

/-! ## Time -/

def atLeast (r : Rehearsal σ) (i : Instant) : Rehearsal σ :=
  { r with stage := { r.stage with clock := ⟨max r.stage.clock.nanos i.nanos⟩ } }

/-- The answer to the open question, if the run still wants it. -/
def wanted? (r : Rehearsal σ) : Option (Instant × Answer) :=
  match r.run.phase with
  | .resolving _ _ => r.pending
  | _ => none

def giveAnswer (a : Attendant σ) (r : Rehearsal σ) (answer : Answer) : Rehearsal σ :=
  { r with pending := none }.tell a (.answered answer r.glimpse)

/-- Is the first instant, if it is known, not after any of the others? -/
def isFirst (i : Option Instant) (others : List (Option Instant)) : Bool :=
  match i with
  | none => false
  | some i => others.all fun other => other.all fun j => j.reached i

/-- Lets time pass up to whatever happens next. -/
def wait? (a : Attendant σ) (r : Rehearsal σ) : Option (Rehearsal σ) :=
  -- of what is due at the same time, programs come first and the end of all waiting comes last
  let wake := r.stage.nextWake?
  let settling := r.run.nextSettling?
  let answered := r.wanted?.map Prod.fst
  let deadline := some r.deadline
  if isFirst wake [settling, answered, deadline] then
    wake.map r.atLeast
  else if isFirst settling [answered, deadline] then
    settling.map fun i =>
      let r := r.atLeast i
      r.tell a (.settled r.glimpse)
  else if isFirst answered [deadline] then
    r.wanted?.map fun (i, answer) => (r.atLeast i).giveAnswer a answer
  else some ((r.atLeast r.deadline).tell a .expired)

/-- Goes on by one event; `none` once the run is over. -/
def advance? (a : Attendant σ) (r : Rehearsal σ) : Option (Rehearsal σ) :=
  if r.run.outcome?.isSome then none
  else
    match r.wanted?.filter fun x => r.stage.clock.reached x.1 with
    | some (_, answer) => some (r.giveAnswer a answer)
    | none =>
      match r.news with
      | signal :: news => some ({ r with news := news }.tellSignal a signal)
      | [] =>
        let stage := r.stage.settle patience
        match stage.signals.reverse with
        | [] => { r with stage := stage }.wait? a
        | signals => some { r with stage := { stage with signals := [] }, news := signals }

/-- Goes on until the run is over; `fuel` bounds the number of events. -/
def advance (a : Attendant σ) : Nat → Rehearsal σ → Rehearsal σ
  | 0, r => r
  | fuel + 1, r =>
    match r.advance? a with
    | some r' => advance a fuel r'
    | none => r

/-! ## Whole runs -/

def begin (files : FileTree) (vars : Variables) (invocation : Invocation)
    (options : RunOptions) (a : Attendant σ) (company : σ) : Rehearsal σ :=
  let spawned := Launch.behaviour? files vars .input invocation
  let (run, effects) := Run.start invocation options (spawned.map fun _ => ())
  -- a run that could not be started is over already, so it does not matter what is on the stage
  let behaviour := match spawned with
    | .ok behaviour => behaviour
    | .error _ => .ended (.code 0)
  let r : Rehearsal σ :=
    { stage := Stage.new files behaviour
      run := run
      deadline := Run.deadline invocation ⟨0⟩
      outputCarry := none
      diagnosticsCarry := none
      openStreams := 2
      news := []
      pending := none
      reaped := false
      company := company }
  effects.foldl (carryOut a) r

/-- Runs a command from its start to its outcome: the attendant and the files afterwards. -/
def perform (files : FileTree) (vars : Variables) (invocation : Invocation)
    (options : RunOptions) (a : Attendant σ) (company : σ) : Outcome × σ × FileTree :=
  let r := (begin files vars invocation options a company).advance a patience
  (r.run.outcome?.getD r.run.finalOutcome, r.company, r.stage.files)

end Rehearsal
end ContractAssist
