import ContractAssist.Address
import ContractAssist.Run.Message

/-!
# Step — how a run goes on

Every event changes the run and asks for effects, in order.

* `Run.start` begins a run, `Run.step` takes one event;
* `Run.absorb` takes note of a chunk: the address is looked for in the chunk and the few characters
  before it, and from the address on nothing is asked and the input of the child is closed;
* a run that listens is over once the child and both streams have come to their end.
-/

namespace ContractAssist
namespace Run

/-! ## Beginning and end -/

def new (invocation : Invocation) (options : RunOptions) : Run where
  invocation := invocation
  minPasswordLength := options.minPasswordLength
  session := .new options.debounce
  phase := .listening
  streamsOpen := true
  exit? := none
  heard := []
  recent := []
  address? := none
  inputOpen := true

def conclude (r : Run) (outcome : Outcome) : Run :=
  { r with phase := .over outcome }

/-- Begins a run; it is over at once if the child could not be started. -/
def start (invocation : Invocation) (options : RunOptions) (spawned : Except IoError Unit) :
    Run × List Effect :=
  match spawned with
  | .ok _ => (new invocation options, [])
  | .error cause =>
    let error := RunError.spawn invocation.program cause
    ((new invocation options).conclude (.failure [] error.message),
      [.log (Message.spawnFailed invocation error)])

/-- What a run comes to that saw the end of its child. -/
def finalOutcome (r : Run) : Outcome :=
  -- nothing more comes, so an address at the end of the output is one
  let address? := r.address?.or (Address.find? r.output)
  { success := address?.isSome
    output := r.output
    address? := address?
    message := Message.finished address? r.exit?
    exitCode? := match r.exit? with
      | some (.ended how) => how.code?
      | _ => none }

/-- A run that listens is over once nothing more can happen. -/
def settle (r : Run) : Run :=
  match r.phase with
  | .listening => if r.streamsOpen || r.exit?.isNone then r else r.conclude r.finalOutcome
  | _ => r

def expire (r : Run) : Run × List Effect :=
  (r.conclude (.failure r.output (RunError.timedOut r.invocation.timeout).message),
    [.log (Message.timedOut r.invocation), .kill])

/-! ## Output -/

/-- So many bytes before a chunk may belong to an address that the chunk completes. -/
def lookBack : Nat := 64

/-- The last characters of a text, so many bytes or the few more that complete a character. -/
def ending (t : Text) : Text :=
  Text.dropBytesBefore (Text.byteSize t - lookBack) t

/-- The address that a chunk makes certain. -/
def newAddress? (r : Run) (text : Text) : Option Text :=
  match r.address? with
  | some _ => none
  | none => Address.findDelimited? (r.recent ++ text)

/-- An address is certain: nothing more is asked or written. -/
def succeed (r : Run) (address : Text) : Run :=
  { r with address? := some address, session := r.session.markDone, inputOpen := false }

def presenting (stream : StreamKind) (text : Text) : List Effect :=
  if text.isEmpty then [] else [.present ⟨stream, text⟩]

def hear (r : Run) (now : Instant) (chunk : Chunk) : Run × List Effect :=
  match r.session.observe chunk.text now with
  | (session, seen) =>
    ({ r with
        session := session
        heard := chunk :: r.heard
        recent := ending (r.recent ++ chunk.text) },
      presenting chunk.stream seen.passthrough)

def absorb (r : Run) (now : Instant) (chunk : Chunk) : Run × List Effect :=
  match r.newAddress? chunk.text with
  | none => r.hear now chunk
  | some address =>
    -- the session is done before it observes the chunk: all of it is shown, and nothing is asked
    match (r.succeed address).hear now chunk with
    | (r', effects) => (r', .log (Message.addressSeen address) :: .closeInput :: effects)

/-! ## The child -/

def recordExit (r : Run) (exit : Exit) : Run × List Effect :=
  ({ r with exit? := some exit },
    match exit with
    | .ended _ => []
    | .unknown cause => [.log (Message.waitFailed cause)])

def look (r : Run) (glimpse : Glimpse) : Run × List Effect × Bool :=
  match r.exit?, glimpse.exit? with
  | some _, _ => (r, [], false)
  | none, none => (r, [], true)
  | none, some exit =>
    match r.recordExit exit with
    | (r', effects) => (r', effects, false)

/-! ## Questions -/

/-- The present question is done with. -/
def leave (r : Run) (now : Instant) : Run :=
  { r with phase := .listening, session := r.session.finishResolution now }

def inquire (r : Run) (prompt : Prompt) (exchange : Resolution) : Run × List Effect :=
  ({ r with phase := .resolving prompt exchange }, exchange.question?.toList.map .ask)

/-- Has a question answered, unless the child has come to its end. -/
def pose (r : Run) (now : Instant) (prompt : Prompt) (glimpse : Glimpse) : Run × List Effect :=
  match r.look glimpse with
  | (r', effects, true) =>
    match r'.inquire prompt (Resolution.start prompt) with
    | (r'', more) => (r'', effects ++ more)
  | (r', effects, false) => (r'.leave now, effects)

def handOut (r : Run) (now : Instant) (glimpse : Glimpse) : Run × List Effect :=
  match r.session.takeReady now with
  | (_, none) => (r, [])
  | (session, some prompt) => { r with session := session }.pose now prompt glimpse

def writing (r : Run) (line : Text) (glimpse : Glimpse) : List Effect :=
  if r.inputOpen then
    .write line :: glimpse.refusal?.toList.map fun cause => .log (Message.replyLost cause)
  else []

/-- Gives the child its reply, unless it has come to its end or an address is certain. -/
def reply (r : Run) (now : Instant) (line : Text) (glimpse : Glimpse) : Run × List Effect :=
  match r.look glimpse with
  | (r', effects, alive) =>
    -- the exchange is over either way
    (r'.leave now,
      effects ++ if alive && !r'.session.isDone then r'.writing line glimpse else [])

def cancel (r : Run) (prompt : Prompt) (exhausted : Bool) : Run × List Effect :=
  (r.conclude (.failure r.output RunError.cancelled.message),
    (if exhausted then [.log Message.exhausted] else [])
      ++ [.log (Message.cancelled prompt.kind), .kill])

def takeAnswer (r : Run) (now : Instant) (prompt : Prompt) (exchange : Resolution)
    (answer : Answer) (glimpse : Glimpse) : Run × List Effect :=
  match exchange.take r.minPasswordLength answer with
  | .settled (.reply line) _ => r.reply now line glimpse
  | .settled .cancelled exhausted => r.cancel prompt exhausted
  | next => r.inquire prompt next

/-! ## Events -/

def stepListening (r : Run) (now : Instant) : Event → Run × List Effect
  | .chunk chunk => if r.streamsOpen then r.absorb now chunk else (r, [])
  | .streamsClosed => ({ r with streamsOpen := false }, [])
  | .exited exit => if r.exit?.isSome then (r, []) else r.recordExit exit
  | .settled glimpse => r.handOut now glimpse
  -- nobody is asked
  | .answered _ _ => (r, [])
  | .expired => r.expire

/-- The exchange goes on unless an address is certain. -/
def leaveIfDone (r : Run) (now : Instant) : Run :=
  if r.session.isDone then r.leave now else r

def stepResolving (r : Run) (now : Instant) (prompt : Prompt) (exchange : Resolution) :
    Event → Run × List Effect
  | .chunk chunk =>
    if r.streamsOpen then
      match r.absorb now chunk with
      | (r', effects) => (r'.leaveIfDone now, effects)
    else (r, [])
  | .streamsClosed => ({ r with streamsOpen := false }, [])
  | .exited exit =>
    if r.exit?.isSome then (r, [])
    else
      match r.recordExit exit with
      | (r', effects) => (r'.leave now, effects)
  | .settled _ => (r, [])
  | .answered answer glimpse => r.takeAnswer now prompt exchange answer glimpse
  | .expired => r.expire

def step (r : Run) (now : Instant) (event : Event) : Run × List Effect :=
  match r.phase with
  | .over _ => (r, [])
  | .listening =>
    match r.stepListening now event with
    | (r', effects) => (r'.settle, effects)
  | .resolving prompt exchange =>
    match r.stepResolving now prompt exchange event with
    | (r', effects) => (r'.settle, effects)

end Run
end ContractAssist
