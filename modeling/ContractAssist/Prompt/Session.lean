import ContractAssist.Duration
import ContractAssist.Prompt.LineClass

/-!
# Session — the questions of one run

A session follows the output of one child program and keeps track of its questions: the one whose
text is still growing, the one that is being answered, and those that wait behind it. All times are
arguments, so a session is a value and each operation a function.

* `Session.observe` reads a chunk of output and gives back the part that is not a question;
* `Session.takeReady` hands out the question whose text has settled;
* `Session.finishResolution` makes the next question the current one;
* `Session.markDone` ends the handling of questions for good.
-/

namespace ContractAssist

inductive SessionState where
  | idle
  -- the text of a question may still grow until `readyAt`
  | awaiting (prompt : Prompt) (readyAt : Instant)
  | resolving (kind : PromptKind)
  | done
  deriving DecidableEq, Repr, Inhabited

structure HandledFlags where
  keypair : Bool
  password : Bool
  deriving DecidableEq, Repr, Inhabited

namespace HandledFlags

def none : HandledFlags := ⟨false, false⟩

def get (h : HandledFlags) : PromptCategory → Bool
  | .keypair => h.keypair
  | .password => h.password

def set (h : HandledFlags) (category : PromptCategory) (value : Bool) : HandledFlags :=
  match category with
  | .keypair => { h with keypair := value }
  | .password => { h with password := value }

end HandledFlags

/-- What a chunk of output meant. -/
structure Observation where
  -- a question in it still needs an answer
  prompt : Bool
  passthrough : Text
  deriving DecidableEq, Repr, Inhabited

namespace Observation

def append (a b : Observation) : Observation :=
  ⟨a.prompt || b.prompt, a.passthrough ++ b.passthrough⟩

end Observation

/-- The questions of one run. -/
structure Session where
  state : SessionState
  handled : HandledFlags
  -- questions that wait behind the current one, first come first
  queue : List Prompt
  -- the unterminated line that the output so far ends in, cut to its last bytes
  tail : Text
  debounce : Duration
  deriving DecidableEq, Repr, Inhabited

namespace Session

/-- The tail holds at most so many bytes. -/
def tailLimit : Nat := 4096

def new (debounce : Duration) : Session :=
  ⟨.idle, .none, [], [], debounce⟩

/-! ## Questions about a session -/

def isDone (s : Session) : Bool :=
  match s.state with
  | .done => true
  | _ => false

def isResolving (s : Session) : Bool :=
  match s.state with
  | .resolving _ => true
  | _ => false

/-- When the current question is ready to be handed out. -/
def nextDeadline? (s : Session) : Option Instant :=
  match s.state with
  | .awaiting _ readyAt => some readyAt
  | _ => none

/-! ## Observing output -/

/-- Puts a question into the queue; one of the same category gives up its place to it. -/
def enqueue (p : Prompt) : List Prompt → List Prompt
  | [] => [p]
  | q :: r => if q.category = p.category then p :: r else q :: enqueue p r

/--
Takes note of a question. Its text either starts or replaces the current question, or waits in the
queue. The answer is `false` if the question counts as asked already.
-/
def register (s : Session) (kind : PromptKind) (line : Text) (now : Instant) : Session × Bool :=
  if s.handled.get kind.category then (s, false)
  else
    let prompt := Prompt.fresh kind line
    let readyAt := now.afterOrSame s.debounce
    match s.state with
    | .idle => ({ s with state := .awaiting prompt readyAt }, true)
    | .awaiting current _ =>
      if current.category = kind.category then
        -- more text of the same question, which starts its time anew
        ({ s with state := .awaiting { prompt with handled := current.handled } readyAt }, true)
      else ({ s with queue := enqueue prompt s.queue }, true)
    | .resolving _ => ({ s with queue := enqueue prompt s.queue }, true)
    | .done => (s, false)

/--
Reads one line. A notice about a password, if it is `news`, lets a password be asked for again. The
answer is `true` if the line is a question that still needs an answer.
-/
def readLine (s : Session) (now : Instant) (news : Bool) (line : Text) : Session × Bool :=
  if Text.allBlank line then (s, false)
  else
    let c := classify line
    -- a notice takes effect before its own line may ask
    let s' : Session :=
      if c.isResetSignal && news then { s with handled := s.handled.set .password false } else s
    match c.question? with
    | some kind => s'.register kind line now
    | none => (s', false)

/-- Reads a line that continues the text `carried`; a question is hidden from the output. -/
def observeLine (s : Session) (now : Instant) (news : Bool) (carried : Text) (l : Text.Line) :
    Session × Observation :=
  match s.readLine now news (carried ++ l.body) with
  | (s', asked) => (s', ⟨asked, if asked then [] else l.whole⟩)

def observeLines (s : Session) (now : Instant) : List Text.Line → Session × Observation
  | [] => (s, ⟨false, []⟩)
  | l :: r =>
    match s.observeLine now true [] l with
    | (s', seen) =>
      match s'.observeLines now r with
      | (s'', later) => (s'', seen.append later)

/-- Cuts a line to its last bytes. -/
def clip (line : Text) : Text :=
  Text.dropBytes (Text.byteSize line - tailLimit) line

/-- The carried line is a notice that took effect when it was first read. -/
def carriesSignal (s : Session) : Bool :=
  !Text.allBlank s.tail && (classify s.tail).isResetSignal

/--
Reads a chunk of output. Its lines are read in order, the first one as the continuation of the
unterminated line of earlier chunks.
-/
def observe (s : Session) (chunk : Text) (now : Instant) : Session × Observation :=
  if s.isDone then (s, ⟨false, chunk⟩)
  else
    match Text.lines chunk with
    | (first, others) =>
      match s.observeLine now (!s.carriesSignal) s.tail first with
      | (s', seen) =>
        match s'.observeLines now others with
        | (s'', later) =>
          -- without a break in it, the whole chunk goes on with the carried line
          let last := match others.getLast? with
            | some l => l.body
            | none => s.tail ++ first.body
          ({ s'' with tail := clip last }, seen.append later)

/-! ## Handing out questions -/

/-- Hands out the current question once its text has settled. -/
def takeReady (s : Session) (now : Instant) : Session × Option Prompt :=
  match s.state with
  | .awaiting prompt readyAt =>
    if now.reached readyAt then
      ({ s with
          state := .resolving prompt.kind
          handled := s.handled.set prompt.category true },
        some { prompt with handled := true })
    else (s, none)
  | _ => (s, none)

/-- The question was dealt with: the next one in the queue becomes the current one. -/
def finishResolution (s : Session) (now : Instant) : Session :=
  if s.isResolving then
    match s.queue.dropWhile fun p => s.handled.get p.category with
    | [] => { s with state := .idle, queue := [] }
    -- its text had its time while it waited
    | p :: r => { s with state := .awaiting p now, queue := r }
  else s

def markDone (s : Session) : Session :=
  { s with state := .done, queue := [], tail := [] }

end Session
end ContractAssist
