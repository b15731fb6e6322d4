import ContractAssist.Shell.Program.Words

/-!
# Carriers — programs that start other programs

What such a program is asked for; how it is done is a matter of whoever can start programs.

* `EnvCall` changes the variables first;
* `TimeoutCall` ends a program that takes too long;
* `WrapCall` starts a program just so;
* `XargsCall` takes the arguments of a program from the input.
-/

namespace ContractAssist
namespace Shell
namespace Program

/-- A carrier that was used wrongly: the status and the complaint. -/
structure Misuse where
  status : Nat
  lines : List Text
  deriving DecidableEq, Repr, Inhabited

def Misuse.carryOut (m : Misuse) (name : Text) : Act Nat := do
  let _ ← m.lines.mapM (complain name)
  misuse m.status name []

def carrierStatus : Nat := 125

def Misuse.ofFault (fault : OptionFault) : Misuse :=
  ⟨carrierStatus, [faultText fault]⟩

/-! ## Variables -/

structure EnvCall where
  clears : Bool
  removed : List Text
  directory? : Option Text
  added : List (Text × Text)
  -- what ends each variable that is shown
  ending : Char
  -- the program and its arguments; without any, the variables are shown
  words : List Text
  deriving DecidableEq, Repr, Inhabited

namespace EnvCall

/-- A text that is being split into words. -/
structure Splitting where
  -- the finished words, the latest first
  words : List Text
  -- the characters of the current word in reverse, if there is one
  current? : Option Text
  quote? : Option Char
  -- does a backslash stand before the next character?
  escaped : Bool
  deriving DecidableEq, Repr, Inhabited

def Splitting.step (s : Splitting) (c : Char) : Splitting :=
  let push (c : Char) : Splitting := { s with current? := some (c :: s.current?.getD []) }
  if s.escaped then
    let meant := match c with
      | 'n' => '\n'
      | 't' => '\t'
      | '_' => ' '
      | c => c
    { push meant with escaped := false }
  else if s.quote? = some c then { s with quote? := none }
  else if c = '\\' && s.quote? ≠ some '\'' then { s with escaped := true }
  else if s.quote?.isSome then push c
  else if c = '"' || c = '\'' then
    { s with quote? := some c, current? := some (s.current?.getD []) }
  else if Arithmetic.isSpace c then
    { s with words := s.current?.toList.map List.reverse ++ s.words, current? := none }
  else push c

def wordsOf (t : Text) : List Text :=
  let s := t.foldl Splitting.step ⟨[], none, none, false⟩
  (s.current?.toList.map List.reverse ++ s.words).reverse

/-- Arguments in which the words of a text stand for an option that asks for that. -/
def spread : Nat → List Text → List Text
  | 0, arguments => arguments
  | _, [] => []
  | fuel + 1, a :: r =>
    let given? : Option (Text × List Text) :=
      match Text.afterFront? "--split-string=" a, a with
      | some t, _ => some (t, r)
      | none, ['-', 'S'] => some (r.headD [], r.tail)
      | none, '-' :: 'S' :: t => some (t, r)
      | none, ['-', 'v', 'S'] => some (r.headD [], r.tail)
      | none, '-' :: 'v' :: 'S' :: t => some (t, r)
      | none, _ => none
    match given? with
    | some (t, r) => spread fuel (wordsOf t ++ r)
    | none =>
      match a with
      | ['-', '-'] => a :: r
      | '-' :: c :: cs =>
        if cs.isEmpty && (c = 'u' || c = 'C') then a :: r.take 1 ++ spread fuel (r.drop 1)
        else a :: spread fuel r
      | _ => a :: r

def spreadLimit : Nat := 1000

def advice : Text := "use -[v]S to pass options in shebang lines"

def assignments : List Text → List (Text × Text) × List Text
  | [] => ([], [])
  | a :: r =>
    let name := a.takeWhile (· ≠ '=')
    if name.length < a.length then
      let (others, words) := assignments r
      ((name, a.drop (name.length + 1)) :: others, words)
    else ([], a :: r)

def ofArguments (arguments : List Text) : Except Misuse EnvCall :=
  match Options.withLong "0iu:C:v" (longOptions [("ignore-environment", 'i'), ("null", '0'),
      ("debug", 'v')] [("unset", 'u'), ("chdir", 'C')]) false none
        (spread spreadLimit arguments) with
  | .error (.unknown letter) =>
    .error ⟨carrierStatus, faultText (.unknown letter) ::
      (if Arithmetic.isSpace letter then [advice] else [])⟩
  | .error fault => .error (.ofFault fault)
  | .ok o =>
    let bare := o.others.head? = some dash
    let (added, words) := assignments (if bare then o.others.tail else o.others)
    .ok
      { clears := bare || o.has 'i'
        removed := (o.given.filter fun g => g.letter = 'u').map GivenOption.argument
        directory? := o.argument? 'C'
        added := added
        ending := if o.has '0' then '\x00' else '\n'
        words := words }

def adapt (e : EnvCall) (s : State) : State :=
  let s := if e.clears then { s with vars := [] } else s
  let s := { s with vars := s.vars.filter fun v => !e.removed.contains v.name }
  e.added.foldl (fun s v => s.putVariable ⟨v.1, some v.2, true, false⟩) s

def failure (program : Text) (e : IoError) : List Text :=
  (quoted program ++ ": " ++ e.text) ::
    (if e = .notFound && program.elem ' ' then [advice] else [])

end EnvCall

/-! ## Time limits -/

/-- A program that may not take too long. -/
structure TimeoutCall where
  -- the limit; zero stands for none
  limit : Duration
  signal : Nat
  grace? : Option Duration
  keeps : Bool
  words : List Text
  deriving DecidableEq, Repr, Inhabited

def TimeoutCall.ofArguments (arguments : List Text) : Except Misuse TimeoutCall := do
  match Options.withLong "k:s:v" (longOptions [("foreground", 'F'), ("preserve-status", 'P'),
      ("verbose", 'v')] [("kill-after", 'k'), ("signal", 's')]) false none arguments with
  | .error fault => .error (.ofFault fault)
  | .ok o =>
    let span (t : Text) : Except Misuse Duration :=
      match span? t with
      | some d => .ok d
      | none => .error ⟨carrierStatus, ["invalid time interval " ++ quoted t]⟩
    let grace? ← (o.argument? 'k').mapM span
    let signal ← match o.argument? 's' with
      | none => pure 15
      | some t =>
        match signalNumber? ((Text.afterFront? "SIG" t).getD t) with
        | some n => pure n
        | none => .error ⟨carrierStatus, [quoted t ++ ": invalid signal"]⟩
    match o.others with
    | limit :: word :: r => return ⟨← span limit, signal, grace?, o.has 'P', word :: r⟩
    | _ => .error ⟨carrierStatus, []⟩

/-! ## Wrappers -/

/-- A program that starts another one just so. -/
structure Wrapper where
  allowed : Text
  status : Nat
  -- what is said if the program cannot be started
  failure : Text → Text

def wrapper? (name : Text) : Option Wrapper :=
  let run (program : Text) : Text := "failed to run command " ++ quoted program
  match String.ofList name with
  | "nohup" => some ⟨[], carrierStatus, run⟩
  | "stdbuf" => some ⟨"i:o:e:", carrierStatus, run⟩
  | "nice" => some ⟨"n:", carrierStatus, quoted⟩
  | "setsid" => some ⟨"cfw", 1, fun program => "failed to execute " ++ program⟩
  | _ => none

def Wrapper.words (w : Wrapper) (arguments : List Text) : Except Misuse (List Text) :=
  match Options.withLong w.allowed [] false none arguments with
  | .error fault => .error ⟨w.status, [faultText fault]⟩
  | .ok o => if o.others.isEmpty then .error ⟨w.status, ["missing operand"]⟩ else .ok o.others

/-! ## Arguments from the input -/

/-- A program whose last arguments are in the input. -/
structure XargsCall where
  -- at most so many of them are taken at once
  atOnce? : Option Nat
  -- each of them stands for this text in the words
  place? : Option Text
  -- the character that ends an argument, if it is not a blank
  ending? : Option Char
  idle : Bool
  words : List Text
  deriving DecidableEq, Repr, Inhabited

namespace XargsCall

def ofArguments (arguments : List Text) : Except Misuse XargsCall :=
  match Options.withLong "0n:I:rd:L:P:t" (longOptions [("null", '0'), ("no-run-if-empty", 'r')]
      [("max-args", 'n'), ("replace", 'I'), ("delimiter", 'd'), ("max-lines", 'L'),
        ("max-procs", 'P')]) false none arguments with
  | .error fault => .error ⟨1, [faultText fault]⟩
  | .ok o =>
    let ending? := if o.has '0' then some '\x00'
      else if o.has 'I' then some '\n'
      else (o.argument? 'd').map fun t =>
        match (Format.resolve t).text with
        | c :: _ => c
        | [] => '\n'
    .ok ⟨(o.argument? 'n').bind amount?, o.argument? 'I', ending?, o.has 'r',
      if o.others.isEmpty then ["echo"] else o.others⟩

def argumentsIn (x : XargsCall) (t : Text) : List Text :=
  match x.ending? with
  | none => EnvCall.wordsOf t
  | some c =>
    let parts := (linesOf c t).map (bodyOf c)
    if x.place?.isSome then
      (parts.map fun p => p.dropWhile Arithmetic.isSpace).filter fun p => !p.isEmpty
    else parts

/-- Lists of at most so many elements; `fuel` bounds their number. -/
def chunks {α : Type} (size : Nat) : Nat → List α → List (List α)
  | 0, _ => []
  | _, [] => []
  | fuel + 1, a :: r => (a :: r).take size :: chunks size fuel ((a :: r).drop size)

def commands (x : XargsCall) (arguments : List Text) : List (List Text) :=
  match x.place?, x.atOnce? with
  | some place, _ =>
    arguments.map fun a => x.words.map fun w => Text.replaceAll place a w
  | none, some n => (chunks (max n 1) arguments.length arguments).map fun c => x.words ++ c
  | none, none => if arguments.isEmpty && x.idle then [] else [x.words ++ arguments]

def statusAfter : Ending → Nat
  | .code 0 => 0
  | .code 255 => 124
  | .code 126 => 126
  | .code 127 => 127
  | .code _ => 123
  | .signal _ => carrierStatus

end XargsCall

end Program
end Shell
end ContractAssist
