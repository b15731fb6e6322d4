import ContractAssist.Shell.Builtin
import ContractAssist.Shell.Program
import ContractAssist.Shell.Program.Carrier
import ContractAssist.Shell.Redirection

/-!
# Evaluation — what commands do

Every function takes a bound on the depth of its recursion; who exceeds it comes to an end.

* `evaluate` does a command, `evaluateText` the commands of a text;
* `substitute` does commands for the sake of their output;
* `runExecutable` does a program, which may be a shell again.
-/

namespace ContractAssist
namespace Shell

structure Manner where
  tested : Bool
  last : Bool
  deriving DecidableEq, Repr, Inhabited

namespace Manner

def usual : Manner := ⟨false, false⟩

def condition : Manner := ⟨true, false⟩

def inner (m : Manner) : Manner := { m with last := false }

end Manner

/-- Each turn of a loop takes this long at least, so that a loop cannot stop the clock. -/
def turnTime : Duration := ⟨10000⟩

/-- A loop that may go only so many levels deeper is taken for an endless one. -/
def loopReserve : Nat := 4096

/-- How long a turn of a loop takes; a turn of an endless one takes longer than anybody waits. -/
def turnSpan (fuel : Nat) : Duration :=
  if fuel < loopReserve then ⟨Nat.pow 10 18⟩ else turnTime

def startTime : Duration := .ofMillis 1

/-- So many functions may be at work at once. -/
def mostCalls : Nat := 1000

def notFoundStatus : Nat := 127

def notRunnableStatus : Nat := 126

def tooDeepSignal : Nat := 11

/-- A command that is not found, or that cannot be run. -/
def statusOfCause (e : IoError) : Nat :=
  match e with
  | .notFound => notFoundStatus
  | .notADirectory => notFoundStatus
  | .linkLoop => notFoundStatus
  | .nameTooLong => notFoundStatus
  | _ => notRunnableStatus

def shellPath : Text := "/bin/sh"

def shellName : Text := "sh"

def State.hasTraps (s : State) : Bool :=
  s.traps.any fun t => !t.2.isEmpty

/-- Says what a loop does after a turn: is it over? -/
def loopIsOver : Act Bool := do
  match (← Act.get).skip with
  | .nothing => return false
  | .loops n => do
    Act.modify fun s => { s with skip := if n ≤ 1 then .nothing else .loops (n - 1) }
    return true
  | .turns n => do
    Act.modify fun s => { s with skip := if n ≤ 1 then .nothing else .turns (n - 1) }
    return 1 < n
  | .function _ => return true

/-- Does the rest of a function, or of the script, go on? -/
def isSkipping : Act Bool := do
  return (← Act.get).skip ≠ .nothing

def atLine (line : Nat) : Act Unit :=
  Act.modify fun s => { s with line := line }

/-- Waits for the processes of a command; the answer is the status of the last. -/
def waitFor : List Nat → Nat → Act Nat
  | [], status => pure status
  | process :: r, _ => do
    let how := (← Act.await process false).getD (.code 0)
    Act.noteEnded process
    Builtin.report how
    waitFor r (Builtin.statusOf how)

/-- A shell that was started by another one: it has no jobs, and only the empty traps. -/
def State.separate (s : State) : State :=
  { s with traps := s.traps.filter fun t => t.2.isEmpty, jobs := [], noted := [], pending := [] }

/-- Gives signals their usual effect which the shell before has caught. -/
def forgetTraps : List (Nat × Text) → Act Unit
  | [] => pure ()
  | (signal, action) :: r => do
    if signal ≠ 0 && !action.isEmpty then Act.heed signal .usual
    forgetTraps r

def keySignals : List Nat := [2, 3]

def ignoreKeys : Act Unit := do
  Act.modify fun s => { s with ignored := keySignals ++ s.ignored }
  let _ ← keySignals.mapM fun signal => Act.heed signal .ignored

def traceText (s : State) (words : List Text) : Text :=
  (s.valueOf? "PS4").getD [] ++ Text.joinWith " " words ++ "\n"

def tellTo (channel? : Option Channel) (text : Text) : Act Unit := do
  let s ← Act.get
  Act.modify fun s => s.redirect 2 channel?
  Act.tell text
  Act.modify fun s' => { s' with channels := s.channels }

inductive Kind where
  | function (body : Command)
  | builtin
  | program
  deriving Inhabited

def kindOf (s : State) (noFunctions : Bool) (name : Text) : Kind :=
  match if noFunctions then none else s.functions.find? fun f => f.1 = name with
  | some (_, body) => .function body
  | none => if Builtin.isBuiltin name then .builtin else .program

/-- A simple command whose words were expanded. -/
structure Prepared where
  words : List Text
  shown : List Text
  noFunctions : Bool
  usualPlaces : Bool
  isSpecial : Bool
  deriving Repr, Inhabited

def dashes : Text := "--"

def assigningNames : List Text :=
  (["export", "readonly", "local", "alias"] : List String).map String.toList

def importVariables (environment : List (Text × Text)) (path : Text) (parent? : Option Nat) :
    List Variable :=
  let own : List Variable :=
    [⟨"IFS", some " \t\n", false, false⟩, ⟨"OPTIND", some "1", false, false⟩,
      ⟨"PPID", some (Text.ofNat (State.parentId parent?)), false, false⟩,
      ⟨"PS1", some "# ", false, false⟩, ⟨"PS2", some "> ", false, false⟩,
      ⟨"PS4", some "+ ", false, false⟩,
      ⟨"PATH", some "/usr/local/sbin:/usr/local/bin:/usr/sbin:/usr/bin:/sbin:/bin", false, false⟩]
  let given := environment.filter fun v =>
    isName v.1 && !(["IFS", "OPTIND", "PPID"] : List String).any fun n => v.1 = n.toList
  let imported := given.map fun v => (⟨v.1, some v.2, true, false⟩ : Variable)
  let place : Variable := ⟨"PWD", some path, true, false⟩
  (imported ++ [place]).foldl (fun vars v => v.into vars) own

/-- The path of the working directory that a shell starts with. -/
def importPath (s : State) (files : FileTree) (environment : List (Text × Text)) : Text :=
  let given := (environment.find? fun v => v.1 = ("PWD" : Text)).map Prod.snd
  let fits (path : Text) : Bool :=
    Path.isAbsolute path &&
      match files.stat? (toText path) with
      | .ok (place, .directory) => place = s.place
      | _ => false
  (given.filter fits).getD (ofText (FileTree.pathOf s.place))

def State.begun (s : State) (files : FileTree) (name : Text) : State :=
  let environment := s.environment
  let path := importPath s files environment
  { s with
    vars := importVariables environment path s.parent?
    name := name
    arguments := []
    status := 0
    line := 0
    command? := none
    options := []
    kept := []
    functions := []
    aliases := []
    path := path
    root := s.own
    tracked := []
    jobs := []
    noted := []
    background? := none
    loops := 0
    calls := 0
    skip := .nothing
    traps := []
    pending := []
    locals := []
    optionPlace := Act.firstOption
    texts := []
    made := 0
    substituted := 0
    settled? := none
    isTracing := false }

/-- What the arguments of a shell ask for. -/
structure ShellCall where
  letters : List (Char × Bool)
  names : List (Text × Bool)
  hasText : Bool
  others : List Text
  deriving Repr, Inhabited

namespace ShellCall

/-- Reads the arguments of a shell; the option `wanting` takes a name first. -/
def read : Option Bool → List Text → ShellCall
  | _, [] => ⟨[], [], false, []⟩
  | some on, a :: r =>
    let call := read none r
    { call with names := (a, on) :: call.names }
  | none, a :: r =>
    let options (on : Bool) (letters : Text) : ShellCall :=
      let call := read (if letters.elem 'o' then some on else none) r
      { call with
        letters := (letters.filter fun c => c ≠ 'o' && !(c = 'c' && on)).map (·, on)
          ++ call.letters
        hasText := call.hasText || (on && letters.elem 'c') }
    match a with
    | ['-'] => ⟨[], [], false, r⟩
    | ['-', '-'] => ⟨[], [], false, r⟩
    | '-' :: letters => options true letters
    | '+' :: letters => options false letters
    | _ => ⟨[], [], false, a :: r⟩

end ShellCall

def setCallOptions (call : ShellCall) : Act Unit := do
  let _ ← call.letters.mapM fun o => Builtin.setLetters o.2 [o.1] false
  let _ ← call.names.mapM fun o => Builtin.setNamed o.1 o.2

def syntaxFault (line : Nat) (reason : Text) : Act Nat := do
  atLine line
  Act.fail ("Syntax error: " ++ reason)

def keepTexts (p : Parsed) : Act Unit :=
  Act.modify fun s => { s with texts := p.texts ++ s.texts, made := p.made }

def echoRead (text : Text) : Act Unit := do
  if (← Act.get).has 'v' then Act.tell text

/-- Shows a command before it is done, if that is wanted. -/
def trace (diagnostics : Option Channel) (words : List Text) : Act Unit := do
  let s ← Act.get
  if s.has 'x' && !s.isTracing then tellTo diagnostics (traceText s words)

/-- The script at a path; a directory is an empty one. -/
def scriptAt? (files : FileTree) (path : Text) : Except IoError Bytes :=
  match files.read? (toText path) with
  | .error .isADirectory => .ok []
  | result => result

/-- What is at a path; what is no program is a script of the shell. -/
def loadOrScript (files : FileTree) (words : List Text) (path : Text) :
    Except IoError Executable :=
  match Executable.ofPath? files path words with
  | .error .notAProgram => .ok ⟨shellName, shellPath :: path :: words.tail⟩
  | result => result

/-- So much of a script is looked at before it is run. -/
def sampleSize : Nat := 128

def isBinary (c : Char) : Bool :=
  let n := c.toNat
  n ≤ 8 || (16 ≤ n && n ≤ 31 && n ≠ 27) || n = 127

/-- Does the first line of a file, as far as it is looked at, contain what no text does? -/
def startsBinary (files : FileTree) (path : Text) : Bool :=
  let content := ((files.read? (toText path)).toOption.getD []).take sampleSize
  ((ofBytes content).takeWhile (· ≠ '\n')).any isBinary

/-- What is at a path for a shell, which runs no script whose first line is not text. -/
def loadOrText (files : FileTree) (words : List Text) (path : Text) : Except IoError Executable :=
  match Executable.ofPath? files path words with
  | .error .notAProgram =>
    if startsBinary files path then .error .notAProgram else loadOrScript files words path
  | result => result

/-- The first of some paths that leads to a program; `cause` is why there is none so far. -/
def firstProgram (files : FileTree) (words : List Text) :
    IoError → List Text → Except IoError Executable
  | cause, [] => .error cause
  | cause, path :: r =>
    match loadOrText files words path with
    | .ok found => .ok found
    | .error .notFound => firstProgram files words cause r
    | .error .notADirectory => firstProgram files words cause r
    | .error e => firstProgram files words e r

/-- The status of a program that a carrier could not start. -/
def carrierFailure (e : IoError) : Nat :=
  if e = .notFound then notFoundStatus else notRunnableStatus

def State.withoutChannels (s : State) : State :=
  { s with channels := [], kept := [] }

/-- Sends a signal after a while, and comes to an end. -/
def strikeAfter (span : Duration) (process signal : Nat) : Act Unit := do
  Act.settleChannels
  Act.rest span
  let _ ← Act.strike process signal
  Act.quit (.code 0)

/-- The status of a program, or its end by a signal. -/
def endLike (how : Ending) : Act Unit :=
  Act.quit (match how with
    | .code n => .code (n % 256)
    | .signal n => .signal n)

mutual

def runTraps : Nat → Act Unit
  | 0 => Act.quit (.signal tooDeepSignal)
  | fuel + 1 => do
    let s ← Act.get
    if s.traps.isEmpty && s.pending.isEmpty then pure ()
    else
      let caught ← Act.caught
      let pending := (s.pending ++ caught).mergeSort (· ≤ ·)
      if pending.isEmpty then pure ()
      else
        let status := s.settled?.getD s.status
        Act.modify fun s => { s with pending := pending, settled? := some status }
        runPending fuel status pending.eraseDups
        Act.modify fun s' => { s' with settled? := s.settled? }

def runPending : Nat → Nat → List Nat → Act Unit
  | 0, _, _ => Act.quit (.signal tooDeepSignal)
  | _, _, [] => pure ()
  | fuel + 1, status, signal :: r => do
    if ← isSkipping then pure ()
    else
      Act.modify fun s => { s with pending := s.pending.filter (· ≠ signal) }
      match (← Act.get).traps.find? fun t => t.1 = signal with
      | none => runPending fuel status r
      | some (_, action) => do
        let _ ← evaluateText fuel .usual action
        if (← Act.get).skip ≠ .function true then Act.status status
        runPending fuel status r

def finish : Nat → Except Halt Unit → Act Unit
  | 0, _ => Act.quit (.signal tooDeepSignal)
  | fuel + 1, result => do
    let asked := match result with
      | .error .exit => true
      | _ => false
    Act.modify fun s =>
      { s with
        status := if asked then s.settled?.getD s.status else s.status
        settled? := none }
    let s ← Act.get
    match s.traps.find? fun t => t.1 = 0 with
    | none => pure ()
    | some (_, action) => do
      Act.modify fun s' =>
        { s' with
          traps := s'.traps.filter fun t => t.1 ≠ 0
          settled? := some s.status
          skip := .nothing }
      let keeps ← match ← Act.attempt (evaluateText fuel .usual action) with
        | .ok _ => pure true
        | .error .exit => pure true
        | .error _ => pure false
      if keeps then Act.modify fun s' => { s' with status := s'.settled?.getD s'.status }
    Act.quit (.code ((← Act.get).status % 256))

def evaluateText : Nat → Manner → Text → Act Nat
  | 0, _, _ => Act.quit (.signal tooDeepSignal)
  | fuel + 1, m, text => evaluateFrom fuel m text 1 0

/-- Does the commands of a text from a line on; `status` is that of those before. -/
def evaluateFrom : Nat → Manner → Text → Nat → Nat → Act Nat
  | 0, _, _, _, _ => Act.quit (.signal tooDeepSignal)
  | fuel + 1, m, text, line, status => do
    let s ← Act.get
    match parseCommand (Reading.new text line false s.aliases s.made) with
    | .error .unfinished => return status
    | .error (.wrong line reason) => syntaxFault line reason
    | .ok p => do
      keepTexts p
      if p.wasOver then return status
      else
        let last := m.last && p.isOver
        let found ← evaluateOption fuel { m with last := last } p.command
        let status := if p.command.isSome then found else status
        if ← isSkipping then return status else evaluateFrom fuel m p.rest p.line status

/--
Does the commands of a text of which more can be read from a channel; `isOpen` says whether.
-/
def evaluateStream : Nat → Bool → Text → Nat → Nat → Act Nat
  | 0, _, _, _, _ => Act.quit (.signal tooDeepSignal)
  | fuel + 1, isOpen, text, line, status => do
    let s ← Act.get
    match parseCommand (Reading.new text line isOpen s.aliases s.made) with
    | .error .unfinished => do
      let more ← Act.hear 0 Act.pieceSize
      evaluateStream fuel (!more.isEmpty) (text ++ more) line status
    | .error (.wrong line reason) => do
      echoRead text
      syntaxFault line reason
    | .ok p => do
      echoRead (text.take (text.length - p.rest.length))
      keepTexts p
      if p.wasOver then return status
      else
        let found ← evaluateOption fuel .usual p.command
        let status := if p.command.isSome then found else status
        match (← Act.get).skip with
        | .nothing => evaluateStream fuel isOpen p.rest p.line status
        | .function _ => do
          Act.modify fun s => { s with skip := .nothing }
          return status
        | _ => return status

def evaluateOption : Nat → Manner → Option Command → Act Nat
  | 0, _, _ => Act.quit (.signal tooDeepSignal)
  | fuel + 1, m, some c => evaluate fuel m c
  | fuel + 1, m, none => conclude fuel m false

/-- Ends a command; if `checked` is set, its failure can end the script. -/
def conclude : Nat → Manner → Bool → Act Nat
  | 0, _, _ => Act.quit (.signal tooDeepSignal)
  | fuel + 1, m, checked => do
    let status := (← Act.get).status
    runTraps fuel
    if (← Act.get).has 'e' && checked && !m.tested && status ≠ 0 then Act.halt .leave
    if m.last then Act.halt .leave
    return (← Act.get).status

def concludeWith : Nat → Manner → Bool → Nat → Act Nat
  | 0, _, _, _ => Act.quit (.signal tooDeepSignal)
  | fuel + 1, m, checked, status => do
    Act.status status
    conclude fuel m checked

def evaluate : Nat → Manner → Command → Act Nat
  | 0, _, _ => Act.quit (.signal tooDeepSignal)
  | fuel + 1, m, c => do
    if (← Act.get).has 'n' then conclude fuel m false
    else
      runTraps fuel
      match c with
      | .simple line assignments words redirects => do
        let status ← evaluateSimple fuel m line assignments words redirects
        concludeWith fuel m true status
      | .pipeline commands background => do
        let status ← evaluatePipeline fuel m commands background
        concludeWith fuel m true status
      | .subshell line body redirects => do
        let status ← evaluateSubshell fuel m line body redirects
        concludeWith fuel m true status
      | .background line body redirects => do
        atLine line
        let s ← Act.get
        let process ← Act.fork (fun s => s.separate.redirect 0 (some .nothing)) (do
          forgetTraps s.traps
          ignoreKeys
          inSubshell fuel { m with last := true, tested := false } body redirects)
        Act.modify fun s => { s with jobs := [process] :: s.jobs, background? := some process }
        concludeWith fuel m true 0
      | .redirected line body redirects => do
        atLine line
        let (status, isDone) ← Redirection.around (substitute fuel) fuel redirects fun made => do
          if made then return ((← evaluate fuel m.inner body, true), false)
          else return ((2, false), false)
        concludeWith fuel m (!isDone) status
      | .inverse body => do
        let status ← evaluate fuel .condition body
        concludeWith fuel m false (if status = 0 then 1 else 0)
      | .both first second => do
        let status ← evaluate fuel .condition first
        if status ≠ 0 || (← isSkipping) then conclude fuel m false
        else concludeWith fuel m false (← evaluate fuel m second)
      | .either first second => do
        let status ← evaluate fuel .condition first
        if status = 0 || (← isSkipping) then conclude fuel m false
        else concludeWith fuel m false (← evaluate fuel m second)
      | .sequence first second => do
        let _ ← evaluate fuel m.inner first
        if ← isSkipping then conclude fuel m false
        else concludeWith fuel m false (← evaluate fuel m second)
      | .branch condition body otherwise => do
        let status ← evaluate fuel .condition condition
        if ← isSkipping then conclude fuel m false
        else if status = 0 then concludeWith fuel m false (← evaluate fuel m body)
        else
          match otherwise with
          | some c => concludeWith fuel m false (← evaluate fuel m c)
          | none => concludeWith fuel m false 0
      | .loop inverted condition body => do
        Act.modify fun s => { s with loops := s.loops + 1 }
        let status ← evaluateLoop fuel m.inner inverted condition body 0
        Act.modify fun s => { s with loops := s.loops - 1 }
        concludeWith fuel m false status
      | .each line name words body => do
        atLine line
        let values ← expandAll fuel words
        Act.modify fun s => { s with loops := s.loops + 1 }
        let status ← evaluateEach fuel m.inner name values body 0
        Act.modify fun s => { s with loops := s.loops - 1 }
        concludeWith fuel m false status
      | .select line subject arms => do
        atLine line
        let text ← Expansion.text (substitute fuel) fuel Expansion.whole subject
        let status ← evaluateSelect fuel m text arms
        concludeWith fuel m false status
      | .define name body => do
        Act.modify fun s =>
          { s with functions := (name, body) :: s.functions.filter fun f => f.1 ≠ name }
        concludeWith fuel m false 0

/-- Does a body as long as a condition holds; `last` is the status of the last turn. -/
def evaluateLoop : Nat → Manner → Bool → Command → Command → Nat → Act Nat
  | 0, _, _, _, _, _ => Act.quit (.signal tooDeepSignal)
  | fuel + 1, m, inverted, condition, body, last => do
    Act.rest (turnSpan fuel)
    let status ← evaluate fuel .condition condition
    match (← Act.get).skip with
    | .nothing =>
      if (status = 0) == inverted then return last
      else
        let last ← evaluate fuel m body
        if ← loopIsOver then return last else evaluateLoop fuel m inverted condition body last
    | .function _ => return status
    | _ =>
      if ← loopIsOver then return last else evaluateLoop fuel m inverted condition body last

/-- Does a body once for each value; `last` is the status of the last turn. -/
def evaluateEach : Nat → Manner → Text → List Text → Command → Nat → Act Nat
  | 0, _, _, _, _, _ => Act.quit (.signal tooDeepSignal)
  | _, _, _, [], _, last => pure last
  | fuel + 1, m, name, value :: r, body, _ => do
    Act.rest turnTime
    Act.assign name value
    let last ← evaluate fuel m body
    if ← loopIsOver then return last else evaluateEach fuel m name r body last

/-- Does the body of the first arm that accepts a text. -/
def evaluateSelect : Nat → Manner → Text → List (List Word × Option Command) → Act Nat
  | 0, _, _, _ => Act.quit (.signal tooDeepSignal)
  | _, _, _, [] => pure 0
  | fuel + 1, m, subject, (words, body) :: r => do
    if ← acceptsAny fuel subject words then
      match body with
      | some c => evaluate fuel m c
      | none => return 0
    else evaluateSelect fuel m subject r

def acceptsAny : Nat → Text → List Word → Act Bool
  | 0, _, _ => Act.quit (.signal tooDeepSignal)
  | _, _, [] => pure false
  | fuel + 1, subject, w :: r => do
    let p ← Expansion.pattern (substitute fuel) fuel w
    if Pattern.accepts p subject then return true else acceptsAny fuel subject r

def expandAll : Nat → List Word → Act (List Text)
  | 0, _ => Act.quit (.signal tooDeepSignal)
  | _, [] => pure []
  | fuel + 1, w :: r => do
    let first ← Expansion.fields (substitute fuel) fuel w
    return first ++ (← expandAll fuel r)

/-- Does a command as the last one of a shell, which comes to its end. -/
def lastly : Nat → Manner → Option Command → Act Unit
  | 0, _, _ => Act.quit (.signal tooDeepSignal)
  | fuel + 1, m, c => do
    let result ← Act.attempt (evaluateOption fuel { m with last := true } c)
    finish fuel (result.map fun _ => ())

/-- Does a command with redirections as the last one of a shell. -/
def inSubshell : Nat → Manner → Command → List Redirect → Act Unit
  | 0, _, _, _ => Act.quit (.signal tooDeepSignal)
  | fuel + 1, m, body, redirects => do
    Act.modify fun s => { s with kept := [] }
    Act.settleChannels
    let result ← Act.attempt do
      let prepared ← Redirection.ofRedirects (substitute fuel) fuel redirects
      Redirection.carryOutAll (substitute fuel) fuel prepared
      Act.settleChannels
      let _ ← evaluate fuel { m with last := true } body
    finish fuel result

def evaluateSubshell : Nat → Manner → Nat → Command → List Redirect → Act Nat
  | 0, _, _, _, _ => Act.quit (.signal tooDeepSignal)
  | fuel + 1, m, line, body, redirects => do
    atLine line
    let s ← Act.get
    if m.last && !s.hasTraps then do
      Act.modify State.separate
      inSubshell fuel m body redirects
      return 0
    else
      let process ← Act.fork State.separate (do
        forgetTraps s.traps
        inSubshell fuel m body redirects)
      waitFor [process] 0

/-- Does commands each of which reads what the one before writes. -/
def evaluatePipeline : Nat → Manner → List Command → Bool → Act Nat
  | 0, _, _, _ => Act.quit (.signal tooDeepSignal)
  | fuel + 1, m, commands, background => do
    let processes ← startAll fuel m background none commands
    Act.settleChannels
    if background then
      Act.modify fun s =>
        { s with jobs := processes :: s.jobs, background? := processes.getLast? }
      return 0
    else waitFor processes 0

/-- Starts commands; the first one reads from a pipe, if there is one. -/
def startAll : Nat → Manner → Bool → Option Nat → List Command → Act (List Nat)
  | 0, _, _, _, _ => Act.quit (.signal tooDeepSignal)
  | _, _, _, _, [] => pure []
  | fuel + 1, m, background, source?, c :: r => do
    let sink? ← if r.isEmpty then pure none else do pure (some (← Act.openPipe))
    let s ← Act.get
    let adapt (s : State) : State :=
      let s := { s.separate with kept := [] }
      let s := match source? with
        | some pipe => s.redirect 0 (some (.source pipe))
        | none => if background then s.redirect 0 (some .nothing) else s
      match sink? with
      | some pipe => s.redirect 1 (some (.sink pipe))
      | none => s
    let process ← Act.fork adapt (do
      forgetTraps s.traps
      if background then ignoreKeys
      Act.settleChannels
      lastly fuel m (some c))
    return process :: (← startAll fuel m background sink? r)

def substitute : Nat → Option Command → Act Text
  | 0, _ => Act.quit (.signal tooDeepSignal)
  | _, none => pure []
  | fuel + 1, some c => do
    let pipe ← Act.openPipe
    let s ← Act.get
    let process ← Act.fork
      (fun s => { s.separate.redirect 1 (some (.sink pipe)) with kept := [] })
      (do
        forgetTraps s.traps
        Act.settleChannels
        lastly fuel .usual (some c))
    Act.modify fun s => { s with kept := .source pipe :: s.kept }
    Act.settleChannels
    let number := 1000 + pipe
    Act.modify fun s => s.redirect number (some (.source pipe))
    let output ← Act.hearAll number
    Act.modify fun s' => { s'.redirect number none with kept := s.kept }
    Act.settleChannels
    let status ← waitFor [process] 0
    Act.modify fun s => { s with substituted := status }
    return output

/-- The fields of the first words that have any, and the words after them. -/
def firstFields : Nat → List Word → Act (List Text × List Word)
  | 0, _ => Act.quit (.signal tooDeepSignal)
  | _, [] => pure ([], [])
  | fuel + 1, w :: r => do
    match ← Expansion.fields (substitute fuel) fuel w with
    | [] => firstFields fuel r
    | fields => return (fields, r)

/--
Looks at the words after the one that says how a command is looked for: the command's own words and
those that are still to be expanded, and whether it is looked for in the usual directories.
-/
def commandWords : Nat → Bool → List Text → List Text → List Word →
    Act (Option (List Text × List Word × Bool) × List Text × List Word)
  | 0, _, _, _, _ => Act.quit (.signal tooDeepSignal)
  | fuel + 1, usual, before, fields, words => do
    match fields with
    | [] => do
      match ← firstFields fuel words with
      | ([], rest) => return (none, before, rest)
      | (found, rest) => commandWords fuel usual before found rest
    | ['-', '-'] :: r => do
      let (r, rest) ← if r.isEmpty then firstFields fuel words else pure (r, words)
      if r.isEmpty then return (none, before ++ [dashes], rest)
      else return (some (r, rest, usual), before ++ [dashes], rest)
    | ('-' :: c :: cs) :: r =>
      if (c :: cs).all (· = 'p') then commandWords fuel true (before ++ [('-' :: c :: cs)]) r words
      else return (none, before ++ fields, words)
    | _ => return (some (fields, words, usual), before, words)

def prepare : Nat → Bool → Bool → Option Bool → List Text → List Text → List Word → Act Prepared
  | 0, _, _, _, _, _, _ => Act.quit (.signal tooDeepSignal)
  | fuel + 1, noFunctions, usual, special?, before, fields, words => do
    let name := fields.headD []
    let isBuiltin := match kindOf (← Act.get) noFunctions name with
      | .builtin => true
      | _ => false
    let special := special?.getD (isBuiltin && specialNames.contains name)
    let ended (fields : List Text) (words : List Word) : Act Prepared := do
      let assigns := isBuiltin && assigningNames.contains name
      let others ← arguments fuel assigns words
      return ⟨fields ++ others, before ++ fields ++ others, noFunctions, usual, special⟩
    if isBuiltin && name = ("command" : Text) then
      match ← commandWords fuel usual [name] fields.tail words with
      | (some (fields, words, usual), before', _) =>
        prepare fuel true usual (some special) (before ++ before') fields words
      | (none, fields, words) => ended fields words
    else ended fields words

/-- Expands arguments; assignments stay whole if `assigns` is set. -/
def arguments : Nat → Bool → List Word → Act (List Text)
  | 0, _, _ => Act.quit (.signal tooDeepSignal)
  | _, _, [] => pure []
  | fuel + 1, assigns, w :: r => do
    let first ← if assigns && Word.isAssignment w then do
        pure [← Expansion.assignment (substitute fuel) fuel w]
      else Expansion.fields (substitute fuel) fuel w
    return first ++ (← arguments fuel assigns r)

/-- Makes assignments, which belong to the command if `kept` is set; the answer is their texts. -/
def assignAll : Nat → Bool → Bool → List Word → Act (List Text)
  | 0, _, _, _ => Act.quit (.signal tooDeepSignal)
  | _, _, _, [] => pure []
  | fuel + 1, kept, exported, w :: r => do
    let text ← Expansion.assignment (substitute fuel) fuel w
    if kept then Act.keepLocal (text.takeWhile (· ≠ '='))
    Act.assignText text (kept || exported)
    return text :: (← assignAll fuel kept exported r)

def evaluateSimple : Nat → Manner → Nat → List Word → List Word → List Redirect → Act Nat
  | 0, _, _, _, _, _ => Act.quit (.signal tooDeepSignal)
  | fuel + 1, m, line, assignments, words, redirects => do
    atLine line
    Act.modify fun s => { s with substituted := 0 }
    match ← firstFields fuel words with
    | ([], _) => do
      let diagnostics := (← Act.get).channel? 2
      Redirection.around (substitute fuel) fuel redirects fun made => do
        if made then
          let shown ← assignAll fuel false false assignments
          if !shown.isEmpty then trace diagnostics shown
          return ((← Act.get).substituted, false)
        else return (2, false)
    | (fields, rest) => do
      let p ← prepare fuel false false none [] fields rest
      let diagnostics := (← Act.get).channel? 2
      let isExec := p.words.head? = some ("exec" : Text)
      let work : Act Nat :=
        Redirection.around (substitute fuel) fuel redirects fun made => do
          if made then
            let kept := !p.isSpecial
            let shown ← assignAll fuel kept (isExec && 1 < p.words.length) assignments
            trace diagnostics (shown ++ p.shown)
            return (← perform fuel m p, isExec)
          else do
            Act.status 2
            if p.isSpecial then Act.halt .fault else return (2, false)
      if p.isSpecial then work else Act.withLocals work

def perform : Nat → Manner → Prepared → Act Nat
  | 0, _, _ => Act.quit (.signal tooDeepSignal)
  | fuel + 1, m, p => do
    let s ← Act.get
    let name := p.words.headD []
    let others := p.words.tail
    match kindOf s p.noFunctions name with
    | .function body => callFunction fuel m body others
    | .builtin => do
      Act.modify fun s => { s with command? := some name }
      let result ← Act.attempt (performBuiltin fuel m name others)
      Act.modify fun s' => { s' with command? := s.command? }
      match result with
      | .ok status => return status
      | .error .fault => if p.isSpecial then Act.halt .fault else return (← Act.get).status
      | .error h => Act.halt h
    | .program => do
      let places := if p.usualPlaces then some Executable.usualDirectories else none
      let known := match places with
        | some t => s.putVariable ⟨"PATH", some t, false, false⟩
        | none => s
      let files ← Act.tree
      let missing? := if name.elem '/' then none
        else
          match Builtin.search known files name with
          | .found _ => none
          | .missing e => some e
      match missing? with
      | some e => do
        Act.warn (name ++ ": " ++ Builtin.causeText e)
        return notFoundStatus
      | none => do
        if places.isNone && !name.elem '/' then Builtin.track name
        if m.last && !s.hasTraps then start fuel places p.words
        else
          let process ← Act.fork id (do
            let result ← Act.attempt (start fuel places p.words)
            finish fuel (result.map fun _ => ()))
          waitFor [process] 0

def callFunction : Nat → Manner → Command → List Text → Act Nat
  | 0, _, _, _ => Act.quit (.signal tooDeepSignal)
  | fuel + 1, m, body, others => do
    let s ← Act.get
    if mostCalls ≤ s.calls then
      Act.fail ("Maximum function recursion depth (" ++ Text.ofNat mostCalls ++ ") reached")
    Act.modify fun s =>
      { s with
        arguments := others
        loops := 0
        calls := s.calls + 1
        optionPlace := Act.firstOption }
    let result ← Act.attempt (evaluate fuel m.inner body)
    Act.modify fun s' =>
      { s' with
        arguments := s.arguments
        loops := s.loops
        calls := s.calls
        optionPlace := s.optionPlace
        skip := match s'.skip with
          | .function _ => .nothing
          | skip => skip }
    let _ ← Act.resume result
    return (← Act.get).status

def performBuiltin : Nat → Manner → Text → List Text → Act Nat
  | 0, _, _, _ => Act.quit (.signal tooDeepSignal)
  | fuel + 1, m, name, others => do
    match Builtin.find? name with
    | some command => command name others
    | none =>
      if name = ("eval" : Text) then
        if others.isEmpty then return 0
        else evaluateText fuel m.inner (Text.joinWith " " others)
      else if name = ("." : Text) then
        match (← Builtin.options [] others).others with
        | [] => return 0
        | file :: _ => evaluateFile fuel file
      else if name = ("exec" : Text) then
        match (← Builtin.options [] others).others with
        | [] => return 0
        | words => start fuel none words
      else if name = ("type" : Text) then Builtin.describeAll name others 0
      else
        let o ← Builtin.options "pvV" others
        match o.others, o.last? ['v', 'V'] with
        | subject :: _, some letter => Builtin.describe name (letter = 'V') subject
        | _, _ => return 0

def evaluateFile : Nat → Text → Act Nat
  | 0, _ => Act.quit (.signal tooDeepSignal)
  | fuel + 1, file => do
    let files ← Act.tree
    let s ← Act.get
    let found := if file.elem '/' then .found file else Builtin.search s files file
    match found with
    | .missing _ => Act.fail (file ++ ": not found")
    | .found path =>
      match scriptAt? files path with
      | .error e => Act.fail ("cannot open " ++ path ++ ": " ++ Redirection.causeText false e)
      | .ok content => do
        Act.modify fun s => { s with command? := some path }
        let status ← evaluateStream fuel false (ofBytes content) 1 0
        return status

def start : Nat → Option Text → List Text → Act Nat
  | 0, _, _ => Act.quit (.signal tooDeepSignal)
  | fuel + 1, places?, words => do
    let s ← Act.get
    let files ← Act.tree
    let name := words.headD []
    let places := Text.parts ':' (places?.getD ((s.valueOf? "PATH").getD []))
    let paths := if name.elem '/' then [name]
      else places.map fun place => if place.isEmpty then name else place ++ '/' :: name
    match firstProgram files words .notFound paths with
    | .ok found => do
      Act.modify fun s => { s with vars := s.handedOn }
      runExecutable fuel found
      return 0
    | .error e => Act.failWith (statusOfCause e) .leave (name ++ ": " ++ Builtin.causeText e)

def runExecutable : Nat → Executable → Act Unit
  | 0, _ => Act.quit (.signal tooDeepSignal)
  | fuel + 1, e => do
    let s ← Act.get
    forgetTraps s.traps
    Act.modify fun s =>
      { s with
        kept := []
        options := []
        traps := []
        ignored := s.ignored ++ (s.traps.filter fun t => t.2.isEmpty).map Prod.fst }
    Act.settleChannels
    Act.rest startTime
    let name := e.arguments.headD []
    let others := e.arguments.tail
    match String.ofList e.program with
    | "sh" => runShell fuel name others
    | "dash" => runShell fuel name others
    | "env" => runEnv fuel name others
    | "timeout" => runTimeout fuel name others
    | "xargs" => runXargs fuel name others
    | _ =>
      match Program.wrapper? e.program, Program.find? e.program with
      | some wrapper, _ => runWrapper fuel wrapper name others
      | none, some program => do
        let status ← program name others
        Act.quit (.code (status % 256))
      | none, none => Act.quit (.code notFoundStatus)

/-- Starts the program that a carrier was asked for, and comes to an end. -/
def carryOn : Nat → (Text → IoError → List Text) → Text → List Text → Act Unit
  | 0, _, _, _ => Act.quit (.signal tooDeepSignal)
  | fuel + 1, failure, name, words => do
    let s ← Act.get
    let files ← Act.tree
    let program := words.headD []
    match Executable.search? (loadOrScript files words) (s.valueOf? "PATH") program with
    | .ok found => runExecutable fuel found
    | .error e => do
      let _ ← (failure program e).mapM (Program.complain name)
      Act.quit (.code (carrierFailure e))

def runEnv : Nat → Text → List Text → Act Unit
  | 0, _, _ => Act.quit (.signal tooDeepSignal)
  | fuel + 1, name, others => do
    match Program.EnvCall.ofArguments others with
    | .error m => Act.quit (.code (← m.carryOut name))
    | .ok call => do
      Act.modify call.adapt
      match call.words, call.directory? with
      | [], _ => do
        let shown := (← Act.get).environment.flatMap fun v => v.1 ++ '=' :: v.2 ++ [call.ending]
        Act.quit (.code (← Program.write name shown))
      | words, none => carryOn fuel Program.EnvCall.failure name words
      | words, some path => do
        match (← Act.tree).stat? (toText path) with
        | .ok (place, .directory) => do
          Act.modify fun s => { s with place := place }
          carryOn fuel Program.EnvCall.failure name words
        | found => do
          let cause := match found with
            | .ok _ => IoError.notADirectory
            | .error e => e
          Program.complain name ("cannot change directory to " ++ Program.quoted path ++ ": "
            ++ cause.text)
          Act.quit (.code Program.carrierStatus)

def runTimeout : Nat → Text → List Text → Act Unit
  | 0, _, _ => Act.quit (.signal tooDeepSignal)
  | fuel + 1, name, others => do
    match Program.TimeoutCall.ofArguments others with
    | .error m => Act.quit (.code (← m.carryOut name))
    | .ok call => do
      let failure (program : Text) (e : IoError) : List Text :=
        ["failed to run command " ++ Program.quoted program ++ ": " ++ e.text]
      let process ← Act.fork id (carryOn fuel failure name call.words)
      if call.limit = ⟨0⟩ then endLike ((← Act.await process false).getD (.code 0))
      else
        let timer ← Act.fork State.withoutChannels (strikeAfter call.limit process call.signal)
        let later? ← call.grace?.mapM fun grace =>
          Act.fork State.withoutChannels
            (strikeAfter ⟨call.limit.nanos + grace.nanos⟩ process Act.killSignal)
        let how ← Act.await process false
        Act.rest ⟨1⟩
        let isInTime ← Act.strike timer Act.killSignal
        let _ ← later?.mapM fun later => Act.strike later Act.killSignal
        match how.getD (.code 0) with
        | .signal n =>
          if isInTime || n = Act.killSignal then Act.quit (.signal n)
          else Act.quit (.code (if call.keeps then 128 + n else 124))
        | .code n => Act.quit (.code (if isInTime || call.keeps then n % 256 else 124))

def runWrapper : Nat → Program.Wrapper → Text → List Text → Act Unit
  | 0, _, _, _ => Act.quit (.signal tooDeepSignal)
  | fuel + 1, wrapper, name, others => do
    match wrapper.words others with
    | .error m => Act.quit (.code (← m.carryOut name))
    | .ok words =>
      carryOn fuel (fun program e => [wrapper.failure program ++ ": " ++ e.text]) name words

def runXargs : Nat → Text → List Text → Act Unit
  | 0, _, _ => Act.quit (.signal tooDeepSignal)
  | fuel + 1, name, others => do
    match Program.XargsCall.ofArguments others with
    | .error m => Act.quit (.code (← m.carryOut name))
    | .ok call => do
      let text ← Act.hearAll 0
      let status ← runCommands fuel name (call.commands (call.argumentsIn text)) 0
      Act.quit (.code status)

/-- Starts programs one after another; the answer is the status for all of them. -/
def runCommands : Nat → Text → List (List Text) → Nat → Act Nat
  | 0, _, _, _ => Act.quit (.signal tooDeepSignal)
  | _, _, [], status => pure status
  | fuel + 1, name, words :: r, status => do
    let failure (program : Text) (e : IoError) : List Text := [program ++ ": " ++ e.text]
    let process ← Act.fork (fun s => s.redirect 0 (some .nothing))
      (carryOn fuel failure name words)
    let how := (← Act.await process false).getD (.code 0)
    let program := words.headD []
    match how with
    | .code 255 => Program.complain name (program ++ ": exited with status 255; aborting")
    | .signal n => Program.complain name (program ++ ": terminated by signal " ++ Text.ofNat n)
    | .code _ => pure ()
    let found := Program.XargsCall.statusAfter how
    if found = 0 then runCommands fuel name r status
    else if found = 123 then runCommands fuel name r 123
    else return found

/-- Does what the arguments of a shell ask for, and comes to an end. -/
def runShell : Nat → Text → List Text → Act Unit
  | 0, _, _ => Act.quit (.signal tooDeepSignal)
  | fuel + 1, name, others => do
    let files ← Act.tree
    Act.modify fun s => s.begun files name
    let call := ShellCall.read none others
    let result ← Act.attempt do
      setCallOptions call
      match call.hasText, call.others with
      | true, [] => Act.fail "-c requires an argument"
      | true, text :: r => do
        Act.modify fun s => { s with name := r.headD s.name, arguments := r.tail }
        let readsMore := (← Act.get).has 's'
        let _ ← evaluateText fuel { Manner.usual with last := !readsMore } text
        if readsMore then
          let _ ← evaluateStream fuel true [] 1 0
      | false, [] => do
        Act.modify fun s => s.setOption 's' true
        let _ ← evaluateStream fuel true [] 1 0
      | false, path :: r => do
        if (← Act.get).has 's' then
          Act.modify fun s => { s with arguments := path :: r }
          let _ ← evaluateStream fuel true [] 1 0
        else
          match scriptAt? files path with
          | .error e => Act.fail ("cannot open " ++ path ++ ": " ++ Redirection.causeText false e)
          | .ok content => do
            Act.modify fun s => { s with name := path, arguments := r }
            let _ ← evaluateStream fuel false (ofBytes content) 1 0
    finish fuel result

end

end Shell
end ContractAssist
