import ContractAssist.Child.Behaviour

/-!
# Stage — programs on a machine with a clock

A stage holds one program that is watched, the programs that it has started, their pipes, the files,
and a clock that shows only the time that programs let pass. Everything the watched streams show is
kept as a signal, in order.

* `Stage.settle` lets all programs go on until each of them waits;
* `Stage.advanceTo` lets time pass;
* `Stage.write` and `Stage.closeInput` are what the other side does.
-/

namespace ContractAssist

inductive Signal where
  | said (kind : StreamKind) (bytes : Bytes)
  | closed (kind : StreamKind)
  | exited (how : Ending)
  deriving DecidableEq, Repr, Inhabited

inductive Activity where
  | running (behaviour : Behaviour)
  | resting (wakeAt : Instant) (next : Unit → Behaviour)
  | hearing (channel : Channel) (limit : Nat) (next : Bytes → Behaviour)
  | saying (pipe : Nat) (bytes : Bytes) (next : Bool → Behaviour)
  | awaiting (process : Nat) (interruptible : Bool) (next : Option Ending → Behaviour)

structure Process where
  -- its number; that of the watched program is zero
  number : Nat
  parent : Nat
  held : List Channel
  activity : Activity
  -- what becomes of signals, if it is not the usual
  heeds : List (Nat × Heed)
  -- the signals that it has caught and not yet been told
  caught : List Nat

/-- Programs on a machine with a clock. -/
structure Stage where
  clock : Instant
  files : FileTree
  -- what was written to the input and not yet read
  input : Bytes
  inputOpen : Bool
  -- the programs, in the order of their starts
  processes : List Process
  started : Nat
  endings : List (Nat × Ending)
  writable : List StreamKind
  signals : List Signal
  -- the pipes with what was written to them and not yet read
  pipes : List (Nat × Bytes)
  openings : List (Nat × Opened)
  -- how many pipes were made and how many things opened
  made : Nat

/-- The signal that tells a program about the end of one that it has started. -/
def childSignal : Nat := 17

/-- A program takes note of the end of one that it has started, if it catches the signal. -/
def Process.afterChild (p : Process) (parent : Nat) : Process :=
  if p.number = parent && p.heeds.contains (childSignal, .caught) then
    { p with caught := p.caught ++ [childSignal] }
  else p

namespace Stage

def allChannels : List Channel :=
  [.input, .stream .output, .stream .diagnostics]

def new (files : FileTree) (behaviour : Behaviour) : Stage where
  clock := ⟨0⟩
  files := files
  input := []
  inputOpen := true
  processes := [⟨0, 0, allChannels, .running behaviour, [], []⟩]
  started := 1
  endings := []
  writable := [.output, .diagnostics]
  signals := []
  pipes := []
  openings := []
  made := 0

/-- A pipe holds so many bytes before those who write have to wait. -/
def pipeRoom : Nat := 65536

/-- The number of the signal that nothing can catch or ignore. -/
def killSignal : Nat := 9

def harmlessSignals : List Nat := [17, 18, 23, 28]

/-! ## Questions about a stage -/

def ending? (s : Stage) (process : Nat) : Option Ending :=
  (s.endings.find? fun e => e.1 = process).map Prod.snd

def isHeld (s : Stage) (channel : Channel) : Bool :=
  s.processes.any fun p => p.held.contains channel

def inPipe (s : Stage) (pipe : Nat) : Bytes :=
  ((s.pipes.find? fun p => p.1 = pipe).map Prod.snd).getD []

/-- The next instant at which a program stops resting. -/
def nextWake? (s : Stage) : Option Instant :=
  s.processes.foldl (fun found p =>
    match p.activity, found with
    | .resting wakeAt _, none => some wakeAt
    | .resting wakeAt _, some i => some (if i.reached wakeAt then wakeAt else i)
    | _, found => found) none

/-! ## Changes -/

def put (s : Stage) (number : Nat) (activity : Activity) : Stage :=
  { s with processes := s.processes.map fun p =>
      if p.number = number then { p with activity := activity } else p }

def resume (s : Stage) (p : Process) (behaviour : Behaviour) : Stage :=
  s.put p.number (.running behaviour)

def notice (s : Stage) (signal : Signal) : Stage :=
  { s with signals := signal :: s.signals }

def setPipe (s : Stage) (pipe : Nat) (bytes : Bytes) : Stage :=
  { s with pipes := s.pipes.map fun p => if p.1 = pipe then (pipe, bytes) else p }

/-- Takes note of streams that nobody can write to any more, and forgets what nobody has. -/
def noticeClosed (s : Stage) : Stage :=
  let (kept, lost) := s.writable.partition fun kind => s.isHeld (.stream kind)
  { s with
    writable := kept
    signals := (lost.reverse.map .closed) ++ s.signals
    pipes := s.pipes.filter fun p => s.isHeld (.source p.1) || s.isHeld (.sink p.1)
    openings := s.openings.filter fun o => s.isHeld (o.2.channel o.1) }

def finish (s : Stage) (number : Nat) (how : Ending) : Stage :=
  match s.processes.find? fun p => p.number = number with
  | none => s
  | some p =>
    let others := s.processes.filter fun q => q.number ≠ number
    let s := { s with
      processes := others.map (Process.afterChild · p.parent)
      endings := (number, how) :: s.endings }
    (if number = 0 then s.notice (.exited how) else s).noticeClosed

/-! ## Reading and writing -/

def cut (bytes : Bytes) (limit : Nat) : Bytes × Bytes :=
  (bytes.take limit, bytes.drop limit)

/-- What is read from an opened thing, and the thing afterwards. -/
def readOpened (s : Stage) (opened : Opened) (limit : Nat) : Bytes × Opened :=
  match opened with
  | .file place position appends =>
    let content : Bytes := match s.files.node? place with
      | some (.file content _) => content
      | _ => []
    let read := (content.drop position).take limit
    (read, .file place (position + read.length) appends)
  | .bytes left => (left.take limit, .bytes (left.drop limit))

def readOpening (s : Stage) (number limit : Nat) : Bytes × Stage :=
  match s.openings.find? fun o => o.1 = number with
  | some (_, opened) =>
    let (now, later) := s.readOpened opened limit
    (now, { s with openings := s.openings.map fun o =>
      if o.1 = number then (number, later) else o })
  | none => ([], s)

/-- What can be read now, and the stage afterwards; `none` if something may come. -/
def read? (s : Stage) (channel : Channel) (limit : Nat) : Option (Bytes × Stage) :=
  match channel with
  | .input =>
    if s.input.isEmpty then (if s.inputOpen then none else some ([], s))
    else
      let (now, later) := cut s.input limit
      some (now, { s with input := later })
  | .source pipe =>
    let inside := s.inPipe pipe
    if inside.isEmpty then (if s.isHeld (.sink pipe) then none else some ([], s))
    else
      let (now, later) := cut inside limit
      some (now, s.setPipe pipe later)
  | .file number => some (s.readOpening number limit)
  | .bytes number => some (s.readOpening number limit)
  | .device .sink => some ([], s)
  | .device _ => some (List.replicate limit 0, s)
  | _ => some ([], s)

/-- Bytes with others in place of those from a position on. -/
def overwrite (content : Bytes) (position : Nat) (bytes : Bytes) : Bytes :=
  content.take position ++ List.replicate (position - content.length) 0 ++ bytes
    ++ content.drop (position + bytes.length)

def writeOpened (s : Stage) (number : Nat) (bytes : Bytes) : Stage :=
  match s.openings.find? fun o => o.1 = number with
  | some (_, .file place position appends) =>
    match s.files.node? place with
    | some (.file content runnable) =>
      let start := if appends then content.length else position
      { s with
        files := s.files.put place (.file (overwrite content start bytes) runnable)
        openings := s.openings.map fun o =>
          if o.1 = number then (number, .file place (start + bytes.length) appends) else o }
    | _ => s
  | _ => s

/-- Writes what a program says, or lets it wait. -/
def write? (s : Stage) (p : Process) (channel : Channel) (bytes : Bytes)
    (next : Bool → Behaviour) : Stage :=
  match channel with
  | .stream kind => (s.resume p (next true)).notice (.said kind bytes)
  | .sink pipe =>
    if !s.isHeld (.source pipe) then s.resume p (next false)
    else if (s.inPipe pipe).length < pipeRoom then
      (s.setPipe pipe (s.inPipe pipe ++ bytes)).resume p (next true)
    else s.put p.number (.saying pipe bytes next)
  | .file number => (s.writeOpened number bytes).resume p (next true)
  | _ => s.resume p (next true)

/-! ## Signals between programs -/

def strike (s : Stage) (number signal : Nat) : Stage :=
  match s.processes.find? fun p => p.number = number with
  | none => s
  | some p =>
    let heed := ((p.heeds.find? fun h => h.1 = signal).map Prod.snd).getD .usual
    -- what a program says about this one signal does not count
    match if signal = killSignal then .usual else heed with
    | .ignored => s
    | .caught => { s with processes := s.processes.map fun q =>
        if q.number = number then { q with caught := q.caught ++ [signal] } else q }
    | .usual =>
      -- the signal zero only asks whether there is such a program
      if signal = 0 ∨ harmlessSignals.contains signal then s
      else s.finish number (.signal signal)

/-! ## Requests -/

def alter (s : Stage) (p : Process) (change : Process → Process) : Stage :=
  { s with processes := s.processes.map fun q => if q.number = p.number then change q else q }

def perform (s : Stage) (p : Process) : Behaviour → Stage
  | .ended how => s.finish p.number how
  | .pause next =>
    (s.alter p fun q => { q with caught := [] }).resume p (next p.caught)
  | .say channel bytes next => s.write? p channel bytes next
  | .hear channel limit next => s.put p.number (.hearing channel limit next)
  | .rest span next => s.put p.number (.resting ⟨s.clock.nanos + span.nanos⟩ next)
  | .look next => s.resume p (next s.files)
  -- a program has a working directory of its own, which is not that of the machine
  | .change files next =>
    { s with files := { s.files with nodes := files.nodes } }.resume p (next ())
  | .openPipe next =>
    let s := s.alter p fun q => { q with held := .source s.made :: .sink s.made :: q.held }
    { s with pipes := (s.made, []) :: s.pipes, made := s.made + 1 }.resume p (next s.made)
  | .openChannel opened next =>
    let channel := opened.channel s.made
    let s := s.alter p fun q => { q with held := channel :: q.held }
    { s with openings := (s.made, opened) :: s.openings, made := s.made + 1 }.resume p
      (next channel)
  | .hold channels next =>
    ((s.alter p fun q => { q with held := channels }).resume p (next ())).noticeClosed
  | .fork child next =>
    let s := s.resume p (next s.started)
    let q : Process := ⟨s.started, p.number, p.held, .running (child s.started), p.heeds, []⟩
    { s with processes := s.processes ++ [q], started := s.started + 1 }
  | .await process interruptible next => s.put p.number (.awaiting process interruptible next)
  | .strike process signal next =>
    let isThere := s.processes.any fun q => q.number = process
    (s.resume p (next isThere)).strike process signal
  | .heed signal how next =>
    (s.alter p fun q =>
      { q with heeds := (signal, how) :: q.heeds.filter fun h => h.1 ≠ signal }).resume p (next ())

/-- Lets a program go on if it need not wait. -/
def goOn? (s : Stage) (p : Process) : Option Stage :=
  match p.activity with
  | .running behaviour => some (s.perform p behaviour)
  | .resting wakeAt next => if s.clock.reached wakeAt then some (s.resume p (next ())) else none
  | .hearing channel limit next =>
    (s.read? channel limit).map fun found => found.2.resume p (next found.1)
  | .saying pipe bytes next =>
    if !s.isHeld (.source pipe) || (s.inPipe pipe).length < pipeRoom then
      some (s.write? p (.sink pipe) bytes next)
    else none
  | .awaiting process interruptible next =>
    match s.ending? process with
    | some how => some (s.resume p (next (some how)))
    | none =>
      if interruptible && !p.caught.isEmpty then some (s.resume p (next none)) else none

/-- Lets the first program go on that need not wait; `none` if all of them wait. -/
def turn? (s : Stage) : Option Stage :=
  s.processes.findSome? s.goOn?

/-- Lets programs go on until all of them wait; `fuel` bounds the number of requests. -/
def settle : Nat → Stage → Stage
  | 0, s => s
  | fuel + 1, s =>
    match s.turn? with
    | some s' => settle fuel s'
    | none => s

/-! ## Time -/

/-- Lets time pass up to an instant; `fuel` bounds the number of requests between two wakes. -/
def advanceTo (limit : Instant) : Nat → Stage → Stage
  | 0, s => s
  | fuel + 1, s =>
    let s := s.settle (fuel + 1)
    match s.nextWake? with
    | some wake =>
      if limit.reached wake then advanceTo limit fuel { s with clock := wake }
      else { s with clock := ⟨max s.clock.nanos limit.nanos⟩ }
    | none => { s with clock := ⟨max s.clock.nanos limit.nanos⟩ }

/-- Lets time pass until the watched program has come to its end. -/
def advanceToEnd : Nat → Stage → Stage
  | 0, s => s
  | fuel + 1, s =>
    let s := s.settle (fuel + 1)
    if (s.ending? 0).isSome then s
    else
      match s.nextWake? with
      | some wake => advanceToEnd fuel { s with clock := wake }
      | none => s

/-! ## The other side -/

/-- Writes to the input; it is lost if nobody can read it. -/
def write (s : Stage) (bytes : Bytes) : Stage :=
  if s.isHeld .input then { s with input := s.input ++ bytes } else s

def closeInput (s : Stage) : Stage :=
  { s with inputOpen := false }

def kill (s : Stage) : Stage :=
  s.finish 0 (.signal killSignal)

end Stage
end ContractAssist
