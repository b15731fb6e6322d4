import ContractAssist.FileTree.Executable
import ContractAssist.Shell.Field
import ContractAssist.Shell.Format
import ContractAssist.Shell.Options
import ContractAssist.Shell.Parser
import ContractAssist.Shell.State
import ContractAssist.Shell.Test

/-!
# Builtin — commands of the shell itself

* `Builtin.find?` finds a command that the shell does itself; its answer is its status;
* `Builtin.describe` says what a name stands for, `Builtin.search` looks for a program.

Commands that carry out other commands are not among them.
-/

namespace ContractAssist
namespace Shell

/-- A command: its name, its arguments, and what it does. -/
abbrev Builtin := Text → List Text → Act Nat

namespace Builtin

/-! ## Arguments -/

def number (t : Text) : Act Nat := do
  match Test.number? t with
  | some n =>
    if 0 ≤ n ∧ n ≤ 2147483647 then return n.toNat else Act.fail ("Illegal number: " ++ t)
  | none => Act.fail ("Illegal number: " ++ t)

def options (allowed : Text) (arguments : List Text) : Act Options := do
  match Options.leading allowed none arguments with
  | .ok o => return o
  | .error (.noArgument c) => Act.fail ("No arg for -" ++ c :: " option".toList)
  | .error (.unknown c) => Act.fail ("Illegal option -" ++ [c])
  | .error _ => Act.fail "Illegal option --"

def write (name text : Text) : Act Nat := do
  match ← Act.say 1 text with
  | none => return 0
  | some _ => do
    Act.warn (name ++ ": I/O error")
    return 1

/-- A text between single quotes, as it can be read again. -/
def quoted (t : Text) : Text :=
  '\'' :: (t.flatMap fun c => if c = '\'' then "'\"'\"'".toList else [c]) ++ "'"

def constant (status : Nat) : Builtin := fun _ _ => pure status

/-! ## Control -/

def exit : Builtin := fun _ arguments => do
  match arguments with
  | [] => Act.halt .exit
  | n :: _ => do
    let status ← number n
    Act.modify fun s => { s with settled? := some status }
    Act.halt .exit

def back : Builtin := fun _ arguments => do
  match arguments with
  | [] => do
    Act.modify fun s => { s with skip := .function false }
    return (← Act.get).status
  | n :: _ => do
    let status ← number n
    Act.modify fun s => { s with skip := .function true }
    return status

def leave (skip : Nat → Skip) : Builtin := fun _ arguments => do
  let wanted ← match arguments with
    | [] => pure 1
    | n :: _ => do
      let found ← number n
      if found = 0 then Act.fail ("Illegal number: " ++ n) else pure found
  let loops := min wanted (← Act.get).loops
  if 0 < loops then Act.modify fun s => { s with skip := skip loops }
  return 0

def shift : Builtin := fun _ arguments => do
  let n ← match arguments with
    | [] => pure 1
    | n :: _ => number n
  if (← Act.get).arguments.length < n then Act.fail "can't shift that many"
  else
    Act.modify fun s =>
      { s with arguments := s.arguments.drop n, optionPlace := Act.firstOption }
    return 0

/-! ## Signals -/

/-- Says what becomes of a signal according to the trap for it. -/
def heedTrap (signal : Nat) : Act Unit := do
  if signal = 0 || (← Act.get).ignored.contains signal then pure ()
  else
    match (← Act.get).traps.find? fun t => t.1 = signal with
    | none => Act.heed signal .usual
    | some (_, []) => Act.heed signal .ignored
    | some _ => Act.heed signal .caught

def setTraps (action? : Option Text) : List Text → Act Nat
  | [] => pure 0
  | name :: r => do
    match signalNumber? name with
    | none => do
      Act.tell ("trap: " ++ name ++ ": bad trap\n")
      return 1
    | some signal => do
      let action? := action?.filter (· ≠ ['-'])
      Act.modify fun s =>
        let others := s.traps.filter fun t => t.1 ≠ signal
        { s with traps := others ++ action?.toList.map fun action => (signal, action) }
      heedTrap signal
      setTraps action? r

/-- Keeps commands for signals and for the end of the script. -/
def trap : Builtin := fun name arguments => do
  match (← options [] arguments).others with
  | [] =>
    let s ← Act.get
    let shown (signal : Nat) : Text :=
      match s.traps.find? fun t => t.1 = signal with
      | some (_, action) =>
        let name := (signalName? signal).getD (Text.ofNat signal)
        Text.joinWith " " ["trap", "--", quoted action, name] ++ "\n"
      | none => []
    write name ((List.range 65).flatMap shown)
  | [signal] => setTraps none [signal]
  | first :: signals =>
    if !first.isEmpty && first.all Char.isDigit && (signalNumber? first).isSome then
      setTraps none (first :: signals)
    else setTraps (some first) signals

/-- The process with a number that a script writes; a percent sign stands before one of a job. -/
def processOf? (t : Text) : Act (Option Nat) := do
  match t with
  | '%' :: r =>
    let jobs := (← Act.get).jobs.reverse
    let n := if r = ['%'] || r = ['+'] || r.isEmpty then jobs.length else Text.decimalValue r
    match (jobs[n - 1]?).bind List.getLast? with
    | some process => return some process
    | none => Act.fail ("No such job: " ++ t)
  | _ => do
    let id ← number t
    return if State.processId 0 ≤ id then some (id - State.processId 0) else none

/-- Sends a signal to programs; those that a dash or a percent sign means have no group. -/
def killAll (signal : Nat) : List Text → Nat → Act Nat
  | [], status => pure status
  | t :: r, status => do
    let group := t.head? = some '-' || t.head? = some '%'
    let isThere ← match ← processOf? (if t.head? = some '-' then t.tail else t) with
      | some process => if group then pure false else Act.strike process signal
      | none => pure false
    if isThere then killAll signal r status
    else do
      Act.warn "No such process\n"
      killAll signal r 1

def killUsage : Text :=
  "Usage: kill [-s sigspec | -signum | -sigspec] [pid | job]... or\nkill -l [exitstatus]"

/-- The signal that an option asks for, whether signals are listed, and the other arguments. -/
def killOptions (arguments : List Text) : Act (Option Nat × Bool × List Text) := do
  match arguments with
  | ('-' :: name) :: r =>
    match if name.isEmpty then none else signalNumber? name with
    | some signal => return (some signal, false, r)
    | none => do
      let o ← options "ls:" arguments
      match o.argument? 's' with
      | none => return (none, o.has 'l', o.others)
      | some name =>
        match signalNumber? name with
        | some signal => return (some signal, o.has 'l', o.others)
        | none => Act.fail ("invalid signal number or name: " ++ name)
  | _ => return (none, false, arguments)

def kill : Builtin := fun name arguments => do
  let (signal?, lists, others) ← killOptions arguments
  if lists && signal?.isNone then
    match others with
    | [] =>
      let shown (n : Nat) : Text := (signalName? n).getD (Text.ofNat n) ++ "\n"
      write name ("0\n" ++ (List.range 65).tail.flatMap shown)
    | n :: _ => do
      let found ← number n
      let signal := if 128 < found then found - 128 else found
      if 0 < signal ∧ signal < 65 then
        write name ((signalName? signal).getD (Text.ofNat signal) ++ "\n")
      else Act.fail ("invalid signal number or exit status: " ++ n)
  else if lists || others.isEmpty then Act.fail killUsage
  else killAll (signal?.getD 15) others 0

def statusOf : Ending → Nat
  | .code n => n
  | .signal n => 128 + n

/-- Takes note of the signals that were caught; the status for them. -/
def interrupted : Act Nat := do
  let signals ← Act.caught
  Act.modify fun s => { s with pending := s.pending ++ signals }
  return 128 + signals.headD 0

def silentSignals : List Nat := [2, 13]

def report : Ending → Act Unit
  | .code _ => pure ()
  | .signal n => if silentSignals.contains n then pure () else Act.tell (signalText n ++ ['\n'])

/--
Waits for a process; there is no answer if a caught signal comes first, unless the process ends
right after that.
-/
def awaitUnlessCaught (process : Nat) : Act (Option Ending) := do
  match ← Act.await process true with
  | some how => return some how
  | none => do
    Act.rest ⟨1⟩
    if ← Act.strike process 0 then return none else Act.await process false

/--
Waits for processes: the status of the last, and whether a signal came first. If `tells` is set, it
is said how they ended, unless that is known already.
-/
def waitProcesses (tells : Bool) : List Nat → Nat → Act (Nat × Bool)
  | [], status => pure (status, false)
  | process :: r, _ => do
    match ← awaitUnlessCaught process with
    | some how => do
      Act.noteEnded process
      let isNew := !(← Act.get).noted.contains process
      if tells && isNew then report how
      Act.modify fun s => { s with noted := process :: s.noted }
      waitProcesses tells r (statusOf how)
    | none => return (← interrupted, true)

def waitNamed : List Text → Nat → Act Nat
  | [], status => pure status
  | t :: r, _ => do
    let process? ← processOf? t
    match (← Act.get).jobs.find? fun job => process?.any fun p => job.getLast? = some p with
    | none => waitNamed r 127
    | some job => do
      let (status, isOver) ← waitProcesses true job 0
      if isOver then return status else waitNamed r status

def wait : Builtin := fun _ arguments => do
  match (← options [] arguments).others with
  | [] => do
    let (status, isOver) ← waitProcesses false (← Act.get).jobs.flatten 0
    return if isOver then status else 0
  | named => waitNamed named 0

/-! ## Variables -/

def shownVariable (command : Text) (v : Variable) : Text :=
  let front := if command.isEmpty then v.name else command ++ ' ' :: v.name
  match v.value? with
  | some value => front ++ '=' :: quoted value ++ "\n"
  | none => if command.isEmpty then [] else front ++ "\n"

def showVariables (name command : Text) (isShown : Variable → Bool) : Act Nat := do
  let found := (← Act.get).vars.filter isShown
  write name ((found.mergeSort fun a b => Test.isBefore a.name b.name).flatMap
    (shownVariable command))

def declareAll (mark : Variable → Variable) : List Text → Act Nat
  | [] => pure 0
  | t :: r => do
    let name := t.takeWhile (· ≠ '=')
    if name.length < t.length then
      Act.assign name (t.drop (name.length + 1))
    else if !isName name then Act.fail (name ++ ": bad variable name")
    Act.modify fun s => s.putVariable (mark ((s.binding? name).getD ⟨name, none, false, false⟩))
    declareAll mark r

def declare (mark : Variable → Variable) (isMarked : Variable → Bool) : Builtin :=
  fun name arguments => do
    let o ← options "p" arguments
    if o.has 'p' || o.others.isEmpty then showVariables name name isMarked
    else declareAll mark o.others

def declareLocal : List Text → Act Nat
  | [] => pure 0
  | t :: r => do
    let name := t.takeWhile (· ≠ '=')
    if name ≠ ['-'] && !isName name then Act.fail (name ++ ": bad variable name")
    Act.keepLocal name
    if name.length < t.length then Act.put name (some (t.drop (name.length + 1))) false
    declareLocal r

def local' : Builtin := fun _ arguments => do
  if (← Act.get).locals.isEmpty then Act.fail "not in a function"
  declareLocal arguments

def unsetAll : List Text → Act Nat
  | [] => pure 0
  | name :: r => do
    if isName name then Act.unset name else Act.fail (name ++ ": bad variable name")
    unsetAll r

def unset : Builtin := fun _ arguments => do
  let o ← options "vf" arguments
  if o.last? ['v', 'f'] = some 'f' then
    Act.modify fun s => { s with functions := s.functions.filter fun f => !o.others.contains f.1 }
    return 0
  else unsetAll o.others

/-! ## Options -/

def optionNames : List (Text × Char) :=
  ([("errexit", 'e'), ("noglob", 'f'), ("ignoreeof", 'I'), ("interactive", 'i'), ("monitor", 'm'),
    ("noexec", 'n'), ("stdin", 's'), ("xtrace", 'x'), ("verbose", 'v'), ("vi", 'V'),
    ("emacs", 'E'), ("noclobber", 'C'), ("allexport", 'a'), ("notify", 'b'), ("nounset", 'u'),
    ("nolog", '\x01'), ("debug", '\x02')] : List (String × Char)).map fun o => (o.1.toList, o.2)

def showOptions (name : Text) (on : Bool) : Act Nat := do
  let s ← Act.get
  if on then
    write name ("Current option settings\n" ++ optionNames.flatMap fun o =>
      o.1 ++ List.replicate (16 - o.1.length) ' ' ++ (if s.has o.2 then "on\n" else "off\n").toList)
  else
    write name (optionNames.flatMap fun o =>
      "set " ++ (if s.has o.2 then "-o " else "+o ").toList ++ o.1 ++ "\n")

def setNamed (name : Text) (on : Bool) : Act Unit := do
  match optionNames.find? fun o => o.1 = name with
  | some (_, letter) => Act.modify fun s => s.setOption letter on
  | none => Act.fail ("Illegal option -o " ++ name)

/-- Sets options by their letters; the answer is whether a name has to follow. -/
def setLetters (on : Bool) : Text → Bool → Act Bool
  | [], named => pure named
  | c :: r, named => do
    if c = 'o' then setLetters on r true
    else if State.optionLetters.elem c then
      Act.modify fun s => s.setOption c on
      setLetters on r named
    else Act.fail ("Illegal option -" ++ [c])

/-- Sets options and arguments; the option `wanting` takes a name first. -/
def setAll (name : Text) : Option Bool → List Text → Act Nat
  | some on, [] => showOptions name on
  | none, [] => pure 0
  | some on, a :: r => do
    setNamed a on
    setAll name none r
  | none, a :: r => do
    let replace (arguments : List Text) : Act Nat := do
      Act.modify fun s => { s with arguments := arguments, optionPlace := Act.firstOption }
      return 0
    match a with
    | ['-'] => do
      Act.modify fun s => (s.setOption 'x' false).setOption 'v' false
      if r.isEmpty then return 0 else replace r
    | ['-', '-'] => replace r
    | '-' :: letters => do
      let wanting ← setLetters true letters false
      setAll name (if wanting then some true else none) r
    | '+' :: letters => do
      let wanting ← setLetters false letters false
      setAll name (if wanting then some false else none) r
    | _ => replace (a :: r)

def set : Builtin := fun name arguments => do
  if arguments.isEmpty then showVariables name [] fun _ => true else setAll name none arguments

/-! ## Options of scripts -/

/-- What looking for the next option comes to. -/
structure NextOption where
  letter : Char
  -- the argument of the option, if its variable is set at all
  argument? : Option Text
  complaint : Text
  place : Nat × Option Nat
  isOver : Bool
  -- is the variable of the argument left alone?
  keeps : Bool
  deriving DecidableEq, Repr, Inhabited

def noOption (at' : Nat) : NextOption :=
  ⟨'?', none, [], (at', none), true, true⟩

/-- The option whose letter is the first of `letters`, the rest of the argument before `index`. -/
def optionFrom (spec : Text) (arguments : List Text) (index : Nat) (letters : Text) : NextOption :=
  let quiet := spec.head? = some ':'
  match letters with
  | [] => noOption index
  | c :: r =>
    let after (index : Nat) (r : Text) : Nat × Option Nat :=
      (index, some (((arguments[index - 2]?).getD []).length - r.length))
    match Options.takes? spec c with
    | none =>
      if quiet then ⟨'?', some [c], [], after index r, false, false⟩
      else ⟨'?', none, "Illegal option -" ++ c :: "\n".toList, after index r, false, false⟩
    | some false => ⟨c, some [], [], after index r, false, false⟩
    | some true =>
      if !r.isEmpty then ⟨c, some r, [], (index, none), false, false⟩
      else
        match arguments[index - 1]? with
        | some argument => ⟨c, some argument, [], (index + 1, none), false, false⟩
        | none =>
          if quiet then ⟨':', some [c], [], after index r, false, false⟩
          else
            ⟨'?', none, "No arg for -" ++ c :: " option\n".toList, after index r, false, false⟩

def nextOption (spec : Text) (arguments : List Text) (place : Nat × Option Nat) : NextOption :=
  let (index, offset?) := place
  let left := match offset? with
    | some n => if index ≤ 1 then [] else ((arguments[index - 2]?).getD []).drop n
    | none => []
  if left.isEmpty then
    match arguments[index - 1]? with
    | some ['-', '-'] => noOption (index + 1)
    | some ('-' :: c :: r) => optionFrom spec arguments (index + 1) (c :: r)
    | _ => noOption index
  else optionFrom spec arguments index left

def getopts : Builtin := fun _ arguments => do
  match arguments with
  | spec :: name :: given => do
    let s ← Act.get
    let given := if given.isEmpty then s.arguments else given
    let place := if given.length + 1 < s.optionPlace.1 then Act.firstOption else s.optionPlace
    let next := nextOption spec given place
    Act.tell next.complaint
    match next.argument?, next.keeps with
    | some argument, _ => Act.assign "OPTARG" argument
    | none, false => Act.unset "OPTARG"
    | none, true => pure ()
    Act.assign "OPTIND" (Text.ofNat next.place.1)
    Act.assign name [next.letter]
    Act.modify fun s => { s with optionPlace := next.place }
    return if next.isOver then 1 else 0
  | _ => Act.fail "Usage: getopts optstring var [arg...]"

/-! ## Reading -/

/-- A line that is being distributed to names. -/
structure Distribution where
  fields : List Text
  current : Text
  -- the length from which on the current field is cut
  cutAt : Option Nat
  left : Nat
  -- was the last character a blank that ended a field?
  afterBlank : Bool
  deriving DecidableEq, Repr, Inhabited

namespace Distribution

def step (separators : Text) (d : Distribution) (c : Char) (quoted : Bool) : Distribution :=
  let separates := separators.elem c
  let blank := separates && Field.isBlankSeparator c
  let pushed := { d with current := c :: d.current }
  if quoted then { pushed with afterBlank := false }
  else if d.left = 0 then
    if blank then { pushed with cutAt := d.cutAt <|> some d.current.length }
    else
      let cutAt := if separates && d.afterBlank then d.cutAt else none
      { pushed with cutAt := cutAt, afterBlank := false }
  else if d.afterBlank && blank then d
  else if d.afterBlank && separates then { d with afterBlank := false }
  else if separates && !d.afterBlank then
    if d.current.isEmpty && blank then d
    else if d.left = 1 then
      { pushed with cutAt := some d.current.length, left := 0, afterBlank := blank }
    else
      { d with
        fields := d.current.reverse :: d.fields
        current := []
        left := d.left - 1
        afterBlank := blank }
  else { pushed with afterBlank := false }

def finish (d : Distribution) : List Text :=
  let last := match d.cutAt with
    | some n => d.current.reverse.take n
    | none => d.current.reverse
  (if last.isEmpty then d.fields else last :: d.fields).reverse

end Distribution

/-- Reads a line: its characters, each with whether it was quoted, and whether it was ended. -/
def readLine (raw : Bool) : Nat → List (Char × Bool) → Act (List (Char × Bool) × Bool)
  | 0, sofar => pure (sofar.reverse, false)
  | fuel + 1, sofar => do
    match ← Act.hear 0 1 with
    | ['\n'] => return (sofar.reverse, true)
    | ['\x00'] => readLine raw fuel sofar
    | [c] =>
      if c = '\\' && !raw then
        match ← Act.hear 0 1 with
        | ['\n'] => readLine raw fuel sofar
        | [d] => readLine raw fuel ((d, true) :: sofar)
        | _ => return (sofar.reverse, false)
      else readLine raw fuel ((c, false) :: sofar)
    | _ => return (sofar.reverse, false)

/-- Gives values to names; names without a value get an empty one. -/
def assignFields : List Text → List Text → Act Unit
  | [], _ => pure ()
  | name :: names, fields => do
    Act.assign name (fields.headD [])
    assignFields names fields.tail

/-- A line has at most so many characters. -/
def longestLine : Nat := 100000000

def read : Builtin := fun _ arguments => do
  let o ← options "p:r" arguments
  if o.others.isEmpty then Act.fail "arg count"
  let (chars, ended) ← readLine (o.has 'r') longestLine []
  let separators := (← Act.get).separators
  let d := chars.foldl (fun d x => d.step separators x.1 x.2)
    (⟨[], [], none, o.others.length, false⟩ : Distribution)
  assignFields o.others d.finish
  return if ended then 0 else 1

/-! ## Places -/

/-- The parts of a path without the dots in it; `sofar` are those before, the latest first. -/
def resolveDots : List Text → List Text → List Text
  | sofar, [] => sofar.reverse
  | sofar, part :: r =>
    if part.isEmpty || part = ['.'] then resolveDots sofar r
    else if part = ['.', '.'] then resolveDots sofar.tail r
    else resolveDots (part :: sofar) r

/-- The path that leads to where a path leads from another one. -/
def logicalPath (from' path : Text) : Text :=
  let isAbsolute := Path.isAbsolute path
  let whole := if isAbsolute then path else from' ++ '/' :: path
  let start := if isAbsolute then path else from'
  let doubled := ("//" : Text).isPrefixOf start && !("///" : Text).isPrefixOf start
  let parts := resolveDots [] (FileTree.parts whole)
  (if doubled then ['/'] else []) ++
    (if parts.isEmpty then ['/'] else parts.flatMap fun part => '/' :: part)

/-- Enters a directory; the answer is `false` if there is none. -/
def enter (physical : Bool) (path : Text) : Act Bool := do
  let s ← Act.get
  let wanted := if physical then path else logicalPath s.path path
  match (← Act.tree).stat? (toText wanted) with
  | .ok (place, .directory) => do
    let shown := if physical then ofText (FileTree.pathOf place) else wanted
    Act.modify fun s => { s with place := place, path := shown }
    Act.put "OLDPWD" (some s.path) true
    Act.put "PWD" (some shown) true
    return true
  | _ => return false

def isFixed (path : Text) : Bool :=
  match FileTree.parts path with
  | [] :: _ => true
  | ['.'] :: _ => true
  | ['.', '.'] :: _ => true
  | _ => false

/-- The first directory of some in which a path leads to a directory. -/
def inDirectories? (files : FileTree) (path : Text) : List Text → Option (Text × Bool)
  | [] => none
  | directory :: r =>
    let full := if directory.isEmpty then path else directory ++ '/' :: path
    if files.isDirectory (toText full) then some (full, !directory.isEmpty)
    else inDirectories? files path r

def cd : Builtin := fun name arguments => do
  let o ← options "LP" arguments
  let s ← Act.get
  let physical := o.last? ['L', 'P'] = some 'P'
  let isBack := o.others.head? = some ['-']
  let path := match o.others with
    | [] => (s.valueOf? "HOME").getD []
    | path :: _ => if isBack then (s.valueOf? "OLDPWD").getD [] else path
  let path := if path.isEmpty then ['.'] else path
  let files ← Act.tree
  let found? := if isFixed path then none
    else (s.valueOf? "CDPATH").bind fun paths =>
      inDirectories? files path (Text.parts ':' paths)
  let (target, isFound) := found?.getD (path, false)
  if ← enter physical target then
    if isBack || isFound then write name ((← Act.get).path ++ "\n") else return 0
  else Act.fail ("can't cd to " ++ path)

def pwd : Builtin := fun name arguments => do
  let o ← options "LP" arguments
  let s ← Act.get
  let physical := o.last? ['L', 'P'] = some 'P'
  write name ((if physical then ofText (FileTree.pathOf s.place) else s.path) ++ "\n")

def octal (n : Nat) : Text :=
  List.leftpad 4 '0' (Nat.toDigits 8 n)

/-- The permissions that a mask leaves to one class of users. -/
def permissions (mask shift : Nat) : Text :=
  let bits := mask / Nat.pow 8 shift % 8
  (if bits / 4 = 0 then ['r'] else []) ++ (if bits / 2 % 2 = 0 then ['w'] else [])
    ++ (if bits % 2 = 0 then ['x'] else [])

def allPositions : Nat := 73

def allBits : Nat := 511

/-- The permissions that a letter stands for, given those that are granted. -/
def bitsOf (granted : Nat) (letter : Char) : Nat :=
  match letter with
  | 'r' => 4
  | 'w' => 2
  | 'x' => 1
  | 'u' => granted / 64
  | 'g' => granted / 8
  | 'o' => granted
  | 'X' => if granted &&& allPositions = 0 then 0 else 1
  | _ => 0

/-- The class of users that a letter stands for, as the place of its lowest bit. -/
def positionOf (letter : Char) : Nat :=
  match letter with
  | 'u' => 64
  | 'g' => 8
  | 'o' => 1
  | _ => allPositions

/--
The permissions after changes that are written with letters; `granted` are those before, `fuel`
bounds the number of changes, and `positions` are the classes of users named so far.
-/
def permissionsAfter? (granted : Nat) : Nat → Nat → Nat → Text → Option Nat
  | 0, _, bits, _ => some bits
  | fuel + 1, positions, bits, t =>
    let who := t.takeWhile fun c => "augo".toList.elem c
    let named := who.foldl (fun n c => n ||| positionOf c) positions
    let positions := if named = 0 then allPositions else named
    match t.drop who.length with
    | [] => some bits
    | operator :: r =>
      let letters := r.takeWhile fun c => "rwxugoXs".toList.elem c
      let value := (letters.foldl (fun n c => n ||| bitsOf granted c) 0 &&& 7) * positions
      let changed? := match operator with
        | '-' => some (bits &&& (allBits - value))
        | '=' => some (value ||| (bits &&& (allBits - positions * 7)))
        | '+' => some (bits ||| value)
        | _ => none
      match changed?, r.drop letters.length with
      | none, _ => none
      | some changed, [] => some changed
      | some changed, ',' :: rest => permissionsAfter? granted fuel 0 changed rest
      | some changed, c :: rest =>
        if "=+-".toList.elem c then permissionsAfter? granted fuel positions changed (c :: rest)
        else none

/-- Shows or sets the permissions that new files do not get. -/
def umask : Builtin := fun name arguments => do
  let o ← options "S" arguments
  let mask := (← Act.get).mask
  match o.others with
  | [] =>
    if o.has 'S' then
      write name ("u=" ++ permissions mask 2 ++ ",g=" ++ permissions mask 1 ++ ",o="
        ++ permissions mask 0 ++ "\n")
    else write name (octal mask ++ "\n")
  | wanted :: _ =>
    if (wanted.headD ' ').isDigit then
      if wanted.all Format.isOctal then
        Act.modify fun s => { s with mask := Arithmetic.digitsValue 8 wanted % (allBits + 1) }
        return 0
      else Act.fail ("Illegal number: " ++ wanted)
    else
      let granted := allBits - mask
      match permissionsAfter? granted (wanted.length + 1) 0 granted wanted with
      | some bits => do
        Act.modify fun s => { s with mask := allBits - bits }
        return 0
      | none => Act.fail ("Illegal mode: " ++ wanted)

/-! ## Conditions -/

def decideWords (words : List Text) : Act Nat := do
  match Test.evaluate (← Act.tree) words with
  | .ok holds => return if holds then 0 else 1
  | .error fault => Act.fail fault.message

def test : Builtin := fun _ words => decideWords words

def bracket : Builtin := fun _ words => do
  if words.getLast? = some [']'] then decideWords words.dropLast else Act.fail "missing ]"

/-! ## Texts -/

def echo : Builtin := fun name arguments => write name (Format.echo arguments)

def complainAll : List Format.Complaint → Act Unit
  | [] => pure ()
  | c :: r => do
    Act.warn c.text
    complainAll r

def printf : Builtin := fun name arguments => do
  match (← options [] arguments).others with
  | [] => Act.fail "usage: printf format [arg ...]"
  | format :: r => do
    let filled := Format.print format r
    complainAll filled.complaints
    return max filled.status (← write name filled.text)

/-! ## Names -/

inductive Finding where
  | found (path : Text)
  | missing (cause : IoError)
  deriving DecidableEq, Repr, Inhabited

def directories (s : State) : List Text :=
  Text.parts ':' ((s.valueOf? "PATH").getD [])

def searchIn (files : FileTree) (name : Text) : IoError → List Text → Finding
  | cause, [] => .missing cause
  | cause, directory :: r =>
    let path := if directory.isEmpty then name else directory ++ '/' :: name
    match files.stat? (toText path) with
    | .ok (_, .file _ _) => .found path
    | .ok (_, .program _) => .found path
    | .ok _ => searchIn files name .permissionDenied r
    | .error .notFound => searchIn files name cause r
    | .error .notADirectory => searchIn files name cause r
    | .error e => searchIn files name e r

/-- Looks for a program; one whose name has a slash is where that leads. -/
def search (s : State) (files : FileTree) (name : Text) : Finding :=
  if name.elem '/' then
    match files.stat? (toText name) with
    | .ok _ => .found name
    | .error e => .missing e
  else searchIn files name .notFound (directories s)

/-- The wording of the cause for which a command cannot be started. -/
def causeText (e : IoError) : Text :=
  match e with
  | .notFound => "not found"
  | .notADirectory => "not found"
  | e => e.text

def carriers : List Text :=
  ([".", "command", "eval", "exec"] : List String).map String.toList

def shownAlias (a : Text × Text) : Text :=
  a.1 ++ '=' :: quoted a.2 ++ "\n"

def aliasAll : List Text → Nat → Act Nat
  | [], status => pure status
  | t :: r, status => do
    let name := t.take 1 ++ t.tail.takeWhile (· ≠ '=')
    if name.length < t.length then
      let value := t.drop (name.length + 1)
      Act.modify fun s =>
        { s with aliases := s.aliases.filter (fun a => a.1 ≠ name) ++ [(name, value)] }
      aliasAll r status
    else
      match (← Act.get).aliases.find? fun a => a.1 = t with
      | some a => do
        let failed ← write "alias" (shownAlias a)
        aliasAll r (max status failed)
      | none => do
        Act.tell ("alias: " ++ t ++ " not found\n")
        aliasAll r 1

def aliases : Builtin := fun name arguments => do
  if arguments.isEmpty then
    let aliases := (← Act.get).aliases
    write name ((List.range groupCount).flatMap fun n =>
      (aliases.filter fun a => groupOf a.1 = n).flatMap shownAlias)
  else aliasAll arguments 0

/-- Removes the aliases of some names; the status tells whether one of them had none. -/
def unaliasAll : List Text → Nat → Act Nat
  | [], status => pure status
  | t :: r, status => do
    if (← Act.get).aliases.any fun a => a.1 = t then
      Act.modify fun s => { s with aliases := s.aliases.filter fun a => a.1 ≠ t }
      unaliasAll r status
    else
      Act.tell ("unalias: " ++ t ++ " not found\n")
      unaliasAll r 1

def unalias : Builtin := fun _ arguments => do
  let o ← options "a" arguments
  if o.has 'a' then
    Act.modify fun s => { s with aliases := [] }
    return 0
  else unaliasAll o.others 0

def track (name : Text) : Act Unit :=
  Act.modify fun s =>
    if s.tracked.contains name then s else { s with tracked := s.tracked ++ [name] }

def trackAll : List Text → Nat → Act Nat
  | [], status => pure status
  | t :: r, status => do
    match search (← Act.get) (← Act.tree) t with
    | .found _ => do
      track t
      trackAll r status
    | .missing e => do
      Act.warn (t ++ ": " ++ causeText e)
      trackAll r 1

def hash : Builtin := fun name arguments => do
  let o ← options "r" arguments
  if o.has 'r' then
    Act.modify fun s => { s with tracked := [] }
    return 0
  else if o.others.isEmpty then
    let s ← Act.get
    let files ← Act.tree
    write name (s.tracked.flatMap fun t =>
      match search s files t with
      | .found path => path ++ "\n"
      | .missing _ => [])
  else trackAll o.others 0

def times : Builtin := fun name _ =>
  write name "0m0.000000s 0m0.000000s\n0m0.000000s 0m0.000000s\n"

def table : List (Text × Builtin) :=
  let exported (v : Variable) : Variable := { v with exported := true }
  let final (v : Variable) : Variable := { v with isFinal := true }
  ([(":", constant 0), ("true", constant 0), ("false", constant 1), ("echo", echo),
    ("printf", printf), ("read", read), ("exit", exit), ("return", back),
    ("break", leave Skip.loops), ("continue", leave Skip.turns), ("shift", shift),
    ("export", declare exported Variable.exported), ("readonly", declare final Variable.isFinal),
    ("local", local'), ("unset", unset), ("set", set), ("cd", cd), ("chdir", cd), ("pwd", pwd),
    ("test", test), ("[", bracket), ("kill", kill), ("wait", wait), ("trap", trap),
    ("umask", umask), ("ulimit", fun name _ => write name "unlimited\n"), ("alias", aliases),
    ("unalias", unalias), ("hash", hash), ("times", times), ("getopts", getopts),
    ("jobs", constant 0)] : List (String × Builtin)).map fun b => (b.1.toList, b.2)

/-- Finds a command that the shell does itself, and that carries out no others. -/
def find? (name : Text) : Option Builtin :=
  (table.find? fun b => b.1 = name).map Prod.snd

def isBuiltin (name : Text) : Bool :=
  carriers.contains name || name = ("type" : Text) || (find? name).isSome

/-- What a name stands for, in words if `verbose` is set; `none` if it stands for nothing. -/
def description? (s : State) (files : FileTree) (verbose : Bool) (name : Text) : Option Text :=
  let say (words : Text) : Option Text := some ((if verbose then name ++ words else name) ++ "\n")
  if Token.keywords.contains name then say " is a shell keyword"
  else
    match s.aliases.find? fun a => a.1 = name with
    | some a =>
      some (if verbose then name ++ " is an alias for " ++ a.2 ++ "\n"
        else "alias " ++ shownAlias a)
    | none =>
      if s.functions.any fun f => f.1 = name then say " is a shell function"
      else if isBuiltin name then
        say (if specialNames.contains name then " is a special shell builtin"
          else " is a shell builtin")
      else
        match search s files name with
        | .found path =>
          let how : Text := if s.tracked.contains name && !name.elem '/' then
            " is a tracked alias for " else " is "
          some ((if verbose then name ++ how else []) ++ path ++ "\n")
        | .missing _ => none

def describe (command : Text) (verbose : Bool) (name : Text) : Act Nat := do
  match description? (← Act.get) (← Act.tree) verbose name with
  | some words => do
    let failed ← write command words
    if !isBuiltin name && !name.elem '/' then track name
    return failed
  | none => do
    if verbose then
      let _ ← write command (name ++ ": not found\n")
    return 127

def describeAll (command : Text) : List Text → Nat → Act Nat
  | [], status => pure status
  | name :: r, status => do
    let found ← describe command true name
    describeAll command r (max status found)

end Builtin
end Shell
end ContractAssist
