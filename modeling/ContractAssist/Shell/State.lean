import ContractAssist.Child.Behaviour
import ContractAssist.FileTree.Access
import ContractAssist.Shell.Syntax

/-!
# State — a shell at work

* `State` holds the variables, the arguments and the channels of a shell; a program that a shell
  starts has the same;
* `Act` is a piece of work: it changes the state and puts requests to the machine, and what follows
  it decides how the behaviour goes on. It may come to a `Halt`, which a later piece may deal with;
* `Act.say`, `Act.hear` and `Act.tree` are the elementary requests.
-/

namespace ContractAssist
namespace Shell

/-! ## States -/

structure Variable where
  name : Text
  value? : Option Text
  exported : Bool
  isFinal : Bool
  deriving DecidableEq, Repr, Inhabited

/-- Variables with one in place of that of its name; a new one is the last. -/
def Variable.into (v : Variable) (vars : List Variable) : List Variable :=
  if vars.any fun w => w.name = v.name then vars.map fun w => if w.name = v.name then v else w
  else vars ++ [v]

/-- Shells keep variables in so many groups. -/
def groupCount : Nat := 39

def groupOf (name : Text) : Nat :=
  name.foldl (fun n c => n + c.toNat) ((name.headD '\x00').toNat * 16) % groupCount

inductive Skip where
  | nothing
  | loops (n : Nat)
  -- the rest of so many loops but one, and of the turn of that one
  | turns (n : Nat)
  | function (explicit : Bool)
  deriving DecidableEq, Repr, Inhabited

structure State where
  vars : List Variable
  name : Text
  arguments : List Text
  status : Nat
  line : Nat
  command? : Option Text
  options : List Char
  channels : List (Nat × Channel)
  kept : List Channel
  functions : List (Text × Command)
  aliases : List (Text × Text)
  place : Place
  path : Text
  root : Nat
  own : Nat
  -- the process that started it; the machine itself has no number
  parent? : Option Nat
  tracked : List Text
  -- the commands in the background with their processes, the latest first
  jobs : List (List Nat)
  -- the processes in the background that are known to have ended
  noted : List Nat
  background? : Option Nat
  loops : Nat
  calls : Nat
  skip : Skip
  -- what is done about signals; the number zero stands for the end of the script
  traps : List (Nat × Text)
  -- the signals that were ignored from the beginning, about which nothing can be done
  ignored : List Nat
  -- the signals that nothing has been done about yet
  pending : List Nat
  -- for each function at work, the variables as they were before it; without a name, options
  locals : List (List (Text × Option Variable × List Char))
  -- the argument that options are looked for in, and the place in it
  optionPlace : Nat × Option Nat
  texts : List (Nat × Word)
  made : Nat
  substituted : Nat
  settled? : Option Nat
  isTracing : Bool
  -- the permissions that new files do not get
  mask : Nat

inductive Halt where
  | fault
  | leave
  -- the end of the script that a command asked for
  | exit
  deriving DecidableEq, Repr, Inhabited

namespace State

def binding? (s : State) (name : Text) : Option Variable :=
  s.vars.find? fun v => v.name = name

def valueOf? (s : State) (name : Text) : Option Text :=
  (s.binding? name).bind Variable.value?

/-- Puts a variable in place of the one of its name. -/
def putVariable (s : State) (v : Variable) : State :=
  { s with vars := v.into s.vars }

def has (s : State) (option : Char) : Bool :=
  s.options.contains option

def setOption (s : State) (option : Char) (on : Bool) : State :=
  let others := s.options.filter (· ≠ option)
  { s with options := if on then option :: others else others }

def environment (s : State) : List (Text × Text) :=
  s.vars.filterMap fun v => if v.exported then v.value?.map fun value => (v.name, value) else none

/-- The variables that a shell hands on to programs, group by group. -/
def handedOn (s : State) : List Variable :=
  let exported := s.vars.filter fun v => v.exported && v.value?.isSome
  (List.range groupCount).flatMap fun n => exported.filter fun v => groupOf v.name = n

def channel? (s : State) (number : Nat) : Option Channel :=
  (s.channels.find? fun c => c.1 = number).map Prod.snd

def redirect (s : State) (number : Nat) (channel? : Option Channel) : State :=
  let others := s.channels.filter fun c => c.1 ≠ number
  { s with channels := (channel?.toList.map fun c => (number, c)) ++ others }

def processId (process : Nat) : Nat :=
  1000 + process

/-- The number of the process that started a program, as scripts see it. -/
def parentId (parent? : Option Nat) : Nat :=
  (parent?.map processId).getD 999

/-- The letters of all options, in the order in which they are shown. -/
def optionLetters : Text := "efIimnsxvVECabu"

def joint (s : State) : Text :=
  match s.valueOf? "IFS" with
  | some ifs => ifs.take 1
  | none => " "

def parameter? (s : State) (name : Text) : Option Text :=
  match name with
  | ['#'] => some (Text.ofNat s.arguments.length)
  | ['?'] => some (Text.ofNat s.status)
  | ['$'] => some (Text.ofNat (processId s.root))
  | ['!'] => s.background?.map fun job => Text.ofNat (processId job)
  | ['-'] => some (optionLetters.reverse.filter s.has)
  | ['@'] => some (Text.joinWith s.joint s.arguments)
  | ['*'] => some (Text.joinWith s.joint s.arguments)
  | _ =>
    if name.all Char.isDigit then
      match Text.decimalValue name with
      | 0 => some s.name
      | n + 1 => s.arguments[n]?
    else s.valueOf? name

def separators (s : State) : Text :=
  (s.valueOf? "IFS").getD " \t\n"

def ignores (s : State) (signal : Nat) : Bool :=
  s.traps.contains (signal, []) || s.ignored.contains signal

/-- A file tree as it is seen from the working directory. -/
def seen (s : State) (files : FileTree) : FileTree :=
  { files with workingDir := s.place }

end State

/-! ## Signals -/

/-- The signals by their numbers, with their names and what is said of programs they end. -/
def signalTable : List (Nat × Text × Text) :=
  ([(1, "HUP", "Hangup"), (2, "INT", "Interrupt"), (3, "QUIT", "Quit"),
    (4, "ILL", "Illegal instruction"), (5, "TRAP", "Trace/breakpoint trap"),
    (6, "ABRT", "Aborted"), (7, "BUS", "Bus error"), (8, "FPE", "Floating point exception"),
    (9, "KILL", "Killed"), (10, "USR1", "User defined signal 1"),
    (11, "SEGV", "Segmentation fault"), (12, "USR2", "User defined signal 2"),
    (13, "PIPE", "Broken pipe"), (14, "ALRM", "Alarm clock"), (15, "TERM", "Terminated"),
    (16, "STKFLT", "Stack fault"), (17, "CHLD", "Child exited"), (18, "CONT", "Continued"),
    (19, "STOP", "Stopped (signal)"), (20, "TSTP", "Stopped"), (21, "TTIN", "Stopped (tty input)"),
    (22, "TTOU", "Stopped (tty output)"), (23, "URG", "Urgent I/O condition"),
    (24, "XCPU", "CPU time limit exceeded"), (25, "XFSZ", "File size limit exceeded"),
    (26, "VTALRM", "Virtual timer expired"), (27, "PROF", "Profiling timer expired"),
    (28, "WINCH", "Window changed"), (29, "IO", "I/O possible"), (30, "PWR", "Power failure"),
    (31, "SYS", "Bad system call")] : List (Nat × String × String)).map fun s =>
      (s.1, s.2.1.toList, s.2.2.toList)

/-- The first of the signals that have no meaning of their own. -/
def firstFreeSignal : Nat := 34

def lastSignal : Nat := 64

def signalName? (number : Nat) : Option Text :=
  let distance (n : Nat) (sign : Char) : Text := if n = 0 then [] else sign :: Text.ofNat n
  if number = 0 then some "EXIT"
  else if firstFreeSignal ≤ number && number < firstFreeSignal + 16 then
    some ("RTMIN" ++ distance (number - firstFreeSignal) '+')
  else if firstFreeSignal ≤ number && number ≤ lastSignal then
    some ("RTMAX" ++ distance (lastSignal - number) '-')
  else (signalTable.find? fun s => s.1 = number).map fun s => s.2.1

def signalText (number : Nat) : Text :=
  if firstFreeSignal ≤ number && number ≤ lastSignal then
    "Real-time signal " ++ Text.ofNat (number - firstFreeSignal)
  else
    ((signalTable.find? fun s => s.1 = number).map fun s => s.2.2).getD
      ("Unknown signal " ++ Text.ofNat number)

def signalNumber? (t : Text) : Option Nat :=
  if !t.isEmpty && t.all Char.isDigit then
    let n := Text.decimalValue t
    if n ≤ lastSignal then some n else none
  else (List.range (lastSignal + 1)).find? fun n => signalName? n = some (t.map Char.toUpper)

def pipeSignal : Nat := 13

/-! ## Acts -/

def Act (α : Type) := State → (Except Halt α → State → Behaviour) → Behaviour

namespace Act

instance : Monad Act where
  pure a := fun s k => k (.ok a) s
  bind act f := fun s k => act s fun result s' =>
    match result with
    | .ok a => f a s' k
    | .error halt => k (.error halt) s'

def get : Act State := fun s k => k (.ok s) s

def modify (f : State → State) : Act Unit := fun s k => k (.ok ()) (f s)

def halt {α : Type} (h : Halt) : Act α := fun s k => k (.error h) s

/-- Does some work, and goes on even if that comes to a halt. -/
def attempt {α : Type} (act : Act α) : Act (Except Halt α) := fun s k =>
  act s fun result s' => k (.ok result) s'

def resume {α : Type} : Except Halt α → Act α
  | .ok a => pure a
  | .error h => halt h

def status (n : Nat) : Act Unit :=
  modify fun s => { s with status := n }

def quit {α : Type} (how : Ending) : Act α := fun _ _ => .ended how

def caught : Act (List Nat) := fun s k => .pause fun signals => k (.ok signals) s

def rest (span : Duration) : Act Unit := fun s k => .rest span fun _ => k (.ok ()) s

def tree : Act FileTree := fun s k => .look fun files => k (.ok (s.seen files)) s

def setTree (files : FileTree) : Act Unit := fun s k => .change files fun _ => k (.ok ()) s

/-- Gives up all channels of the machine that are neither open nor kept. -/
def settleChannels : Act Unit := fun s k =>
  .hold (s.channels.map Prod.snd ++ s.kept) fun _ => k (.ok ()) s

def openPipe : Act Nat := fun s k => .openPipe fun pipe => k (.ok pipe) s

def openChannel (opened : Opened) : Act Channel := fun s k =>
  .openChannel opened fun channel => k (.ok channel) s

/-- Starts a program of its own that does some work; the answer is its number. -/
def fork (adapt : State → State) (work : Act Unit) : Act Nat := fun s k =>
  .fork
    (fun process =>
      let s' := adapt { s with own := process, parent? := some s.own }
      work s' fun _ s' => .ended (.code (s'.status % 256)))
    fun process => k (.ok process) s

def await (process : Nat) (interruptible : Bool) : Act (Option Ending) := fun s k =>
  .await process interruptible fun how => k (.ok how) s

def killSignal : Nat := 9

/-- Sends a signal; the answer is `false` if there is no such program. -/
def strike (process signal : Nat) : Act Bool := fun s k =>
  .strike process signal fun isThere => k (.ok isThere) s

/-- Takes note of processes in the background that began before another one and have ended. -/
def noteEnded (process : Nat) : Act Unit := do
  let s ← get
  let older := s.jobs.flatten.filter fun p => p < process && !s.noted.contains p
  let ended ← older.filterM fun p => return !(← strike p 0)
  modify fun s => { s with noted := ended ++ s.noted }

def heed (signal : Nat) (how : Heed) : Act Unit := fun s k =>
  .heed signal how fun _ => k (.ok ()) s

def badChannel : IoError := .other "Bad file descriptor"

/-- Writes to a channel; the answer is why that fails. Who cannot be heard comes to an end. -/
def say (number : Nat) (text : Text) : Act (Option IoError) := fun s k =>
  match s.channel? number with
  | none => k (.ok (if text.isEmpty then none else some badChannel)) s
  | some channel =>
    if text.isEmpty then k (.ok none) s
    else if channel = .device .full then k (.ok (some .noSpace)) s
    else
      .say channel (toBytes text) fun isHeard =>
        if isHeard then k (.ok none) s
        else if s.ignores pipeSignal then k (.ok (some .brokenPipe)) s
        else .ended (.signal pipeSignal)

def tell (text : Text) : Act Unit := do
  let _ ← say 2 text

/-- Reads at most so many bytes; none at all is the end. -/
def hear (number limit : Nat) : Act Text := fun s k =>
  match s.channel? number with
  | none => k (.ok []) s
  | some channel => .hear channel limit fun bytes => k (.ok (ofBytes bytes)) s

/-- So many bytes are read at once. -/
def pieceSize : Nat := 65536

/-- Reads up to the end; `fuel` bounds the number of pieces, which are given in reverse. -/
def hearPieces (number : Nat) : Nat → List Text → Act (List Text)
  | 0, pieces => pure pieces
  | fuel + 1, pieces => do
    let piece ← hear number pieceSize
    if piece.isEmpty then return pieces else hearPieces number fuel (piece :: pieces)

/-- So many pieces are read at most. -/
def manyPieces : Nat := 1000000

def hearAll (number : Nat) : Act Text := do
  return (← hearPieces number manyPieces []).reverse.flatten

/-! ## Complaints -/

/-- A complaint about a command, with the name of the script and the line. -/
def warn (text : Text) : Act Unit := do
  let s ← get
  let command := match s.command? with
    | some name => name ++ ": "
    | none => []
  tell (s.name ++ ": " ++ Text.ofNat s.line ++ ": " ++ command ++ text ++ "\n")

def failWith {α : Type} (status : Nat) (h : Halt) (text : Text) : Act α := do
  warn text
  Act.status status
  halt h

def fail {α : Type} (text : Text) : Act α :=
  failWith 2 .fault text

/-! ## Variables -/

def firstOption : Nat × Option Nat := (1, none)

/-- Gives a value to a variable, and marks it if `exported` is set; a final one keeps its own. -/
def put (name : Text) (value? : Option Text) (exported : Bool) : Act Unit := do
  let s ← get
  let v := (s.binding? name).getD ⟨name, none, false, false⟩
  if v.isFinal then fail (name ++ ": is read only")
  else
    let marked := exported || v.exported || s.has 'a'
    modify fun s => s.putVariable { v with value? := value?, exported := marked }
    if name = ("PATH" : Text) then modify fun s => { s with tracked := [] }
    if name = ("OPTIND" : Text) then
      let n := Text.decimalValue ((value?.getD []).takeWhile Char.isDigit)
      modify fun s => { s with optionPlace := (if n = 0 then 1 else n, none) }

def assign (name value : Text) : Act Unit := do
  if isName name then put name (some value) false
  else fail (name ++ ": bad variable name")

def assignText (text : Text) (exported : Bool) : Act Unit := do
  match assignment? text with
  | some (name, value) => put name (some value) exported
  | none => fail (text.takeWhile (· ≠ '=') ++ ": bad variable name")

def unset (name : Text) : Act Unit := do
  match (← get).binding? name with
  | none => pure ()
  | some v =>
    if v.isFinal then fail (name ++ ": is read only")
    else modify fun s => { s with vars := s.vars.filter fun v => v.name ≠ name }

/-- Keeps a variable, or the options, for the end of the function. -/
def keepLocal (name : Text) : Act Unit :=
  modify fun s =>
    match s.locals with
    | [] => s
    | inner :: outer =>
      { s with locals := ((name, s.binding? name, s.options) :: inner) :: outer }

/-- Does some work, and gives back the variables that it kept. -/
def withLocals {α : Type} (work : Act α) : Act α := do
  modify fun s => { s with locals := [] :: s.locals }
  let depth := (← get).locals.length
  let result ← attempt work
  modify fun s =>
    let inner := (s.locals.drop (s.locals.length - depth)).headD []
    let s := { s with locals := s.locals.drop (s.locals.length - depth + 1) }
    inner.foldl (fun s kept =>
      match kept with
      | (['-'], _, options) => { s with options := options }
      | (_, some v, _) => s.putVariable v
      | (name, none, _) => { s with vars := s.vars.filter fun v => v.name ≠ name }) s
  resume result

end Act

end Shell
end ContractAssist
