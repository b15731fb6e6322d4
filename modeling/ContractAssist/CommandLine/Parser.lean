import ContractAssist.CommandLine.Basic

/-!
# Parser — from words to a request

A command line has two levels: the words up to the name of a command, and those after it. At each
level there are options of two kinds: flags, and options with a value. A value stands in the same
word or in the next one. A word of one dash may hold several short options; two dashes alone end
the options. A value in a word of its own is checked only when the next option, a positional word
or the end of the level is met.

* `Opt` are the options, with their spellings;
* `Level.read` reads the words of one level;
* `parse` reads a whole command line.
-/

namespace ContractAssist
namespace CommandLine

/-! ## Options -/

inductive Opt where
  | config
  | noColor
  | verbose
  | help
  | version
  -- the file to check; it has no spelling
  | file
  | json
  | severity
  | excludeRule
  | contract
  | rpc
  -- how many seconds the deployment may take
  | timeout
  | yes
  | passwordEnv
  | force
  deriving DecidableEq, Repr, Inhabited

namespace Opt

/-- The spelling after two dashes. -/
def long? : Opt → Option Text
  | config => some "config"
  | noColor => some "no-color"
  | verbose => some "verbose"
  | help => some "help"
  | version => some "version"
  | file => none
  | json => some "json"
  | severity => some "severity"
  | excludeRule => some "exclude-rule"
  | contract => some "contract"
  | rpc => some "rpc"
  | timeout => some "timeout"
  | yes => some "yes"
  | passwordEnv => some "password-env"
  | force => some "force"

def short? : Opt → Option Char
  | config => some 'c'
  | verbose => some 'v'
  | help => some 'h'
  | version => some 'V'
  | yes => some 'y'
  | _ => none

def takesValue : Opt → Bool
  | config | file | severity | excludeRule | contract | rpc | timeout | passwordEnv => true
  | _ => false

def repeatable : Opt → Bool
  | verbose | excludeRule => true
  | _ => false

end Opt

/-- The words before the name of a command, and those after it. -/
inductive Level where
  | root
  | lint
  | deploy
  | init
  deriving DecidableEq, Repr, Inhabited

namespace Level

/-- Options that are understood at every level. -/
def everywhere : List Opt := [.config, .noColor, .verbose, .help]

def options : Level → List Opt
  | root => everywhere ++ [.version]
  | lint => everywhere ++ [.json, .severity, .excludeRule]
  | deploy => everywhere ++ [.contract, .rpc, .timeout, .yes, .passwordEnv]
  | init => everywhere ++ [.force]

def needs? : Level → Option Opt
  | lint => some .file
  | deploy => some .contract
  | _ => none

def ofName? (word : Text) : Option Level :=
  if word = ("lint" : Text) then some lint
  else if word = ("deploy" : Text) then some deploy
  else if word = ("init" : Text) then some init
  else none

def long? (level : Level) (name : Text) : Option Opt :=
  level.options.find? fun o => o.long? = some name

def short? (level : Level) (c : Char) : Option Opt :=
  level.options.find? fun o => o.short? = some c

end Level

/-! ## Values -/

def Opt.objection? (o : Opt) (value : Text) : Option UsageError :=
  match o with
  | .file | .contract => if value.isEmpty then some .invalidValue else none
  | .severity => if value = ("error" : Text) then none else some .invalidValue
  | .timeout => if (Text.natural64? value).isSome then none else some .valueValidation
  | _ => none

/-! ## Reading a level -/

/-- What has been read of a level. -/
structure Draft where
  -- the options that were given, each with its value, in order
  given : List (Opt × Text)
  -- an option that has been met, with its value if that has been met too
  pending : Option (Opt × Option Text)
  optionsEnded : Bool
  fileMet : Bool
  deriving DecidableEq, Repr, Inhabited

namespace Draft

def empty : Draft := ⟨[], none, false, false⟩

def count (d : Draft) (o : Opt) : Nat :=
  d.given.countP fun g => g.1 = o

def has (d : Draft) (o : Opt) : Bool :=
  d.given.any fun g => g.1 = o

def values (d : Draft) (o : Opt) : List Text :=
  (d.given.filter fun g => g.1 = o).map Prod.snd

def value? (d : Draft) (o : Opt) : Option Text :=
  (d.values o).head?

/-- Does the next word belong to the option before it? -/
def awaitsValue (d : Draft) : Bool :=
  match d.pending with
  | some (_, none) => true
  | _ => false

def accept (d : Draft) (o : Opt) (value : Text) : Except UsageError Draft :=
  -- whatever is still to come does not count
  if o = .help then .error .displayHelp
  else if o = .version then .error (.displayVersion false)
  else if !o.repeatable && d.has o then .error .argumentConflict
  else
    match o.objection? value with
    | some e => .error e
    | none => .ok { d with given := d.given ++ [(o, value)] }

/-- Takes note of the option that was met before. -/
def flush (d : Draft) : Except UsageError Draft :=
  match d.pending with
  | none => .ok d
  | some (_, none) => .error .invalidValue
  | some (o, some value) => accept { d with pending := none } o value

/-- Meets an option whose value is at hand. -/
def meet (d : Draft) (o : Opt) (value : Text) : Except UsageError Draft := do
  (← d.flush).accept o value

/-- Meets an option whose value is still to come, or is to be checked later. -/
def postpone (d : Draft) (o : Opt) (value : Option Text) : Except UsageError Draft := do
  return { ← d.flush with pending := some (o, value) }

/-! ## Words -/

def shortLetters (level : Level) (d : Draft) : Text → Except UsageError Draft
  | [] => .ok d
  | c :: r =>
    match level.short? c with
    | none => .error .unknownArgument
    | some o =>
      if o.takesValue then
        match r with
        | [] => d.postpone o none
        | '=' :: value => d.meet o value
        | value => d.meet o value
      else
        match d.meet o [] with
        | .ok d' => shortLetters level d' r
        | .error e => .error e

/-- Reads a word of two dashes: a name, and a value if an equals sign follows. -/
def longName (level : Level) (d : Draft) (name : Text) (value : Option Text) :
    Except UsageError Draft :=
  match level.long? name with
  | none => .error .unknownArgument
  | some o =>
    if o.takesValue then
      match value with
      | some v => d.meet o v
      | none => d.postpone o none
    else
      match value with
      | some _ => .error .tooManyValues
      | none =>
        if o = .version then do
          let _ ← d.flush
          .error (.displayVersion true)
        else d.meet o []

/-- Why a word finds no place. -/
def surplus (level : Level) (d : Draft) (word : Text) : UsageError :=
  if level = .root ∧ ¬ (d.optionsEnded ∧ (word = ("help" : Text) ∨ (Level.ofName? word).isSome))
  then .invalidSubcommand
  else .unknownArgument

/-- Reads a word that is neither an option nor the value of one. -/
def positional (level : Level) (d : Draft) (word : Text) : Except UsageError Draft :=
  if level = .lint ∧ !d.fileMet then do
    return { ← d.postpone .file (some word) with fileMet := true }
  else .error (surplus level d word)

def splitName (word : Text) : Text × Option Text :=
  let name := word.takeWhile (· != '=')
  match word.drop name.length with
  | [] => (name, none)
  | _ :: value => (name, some value)

def word (level : Level) (d : Draft) (w : Text) : Except UsageError Draft :=
  if d.optionsEnded then positional level d w
  else
    match w with
    | ['-', '-'] => .ok { d with optionsEnded := true }
    | '-' :: '-' :: name => longName level d (splitName name).1 (splitName name).2
    | '-' :: c :: letters => shortLetters level d (c :: letters)
    | w =>
      match d.pending with
      -- the value is checked later, where the option is flushed
      | some (o, none) => .ok { d with pending := some (o, some w) }
      | _ => positional level d w

/-- Reads the words of a level that has no levels below it. -/
def words (level : Level) (d : Draft) : List Text → Except UsageError Draft
  | [] => d.flush
  | w :: r =>
    match word level d w with
    | .ok d' => words level d' r
    | .error e => .error e

end Draft

/-! ## The two levels -/

def Level.read (level : Level) (words : List Text) : Except UsageError Draft := do
  let d ← Draft.words level .empty words
  match level.needs? with
  | some o => if d.has o then return d else .error .missingRequiredArgument
  | none => return d

/-- What asking for help about a command comes to. -/
def helpAbout : List Text → UsageError
  | [] => .displayHelp
  | [topic] =>
    if topic = ("help" : Text) ∨ (Level.ofName? topic).isSome then .displayHelp
    else .invalidSubcommand
  | _ => .invalidSubcommand

def withoutCommand (d : Draft) : UsageError :=
  match d.flush with
  | .error e => e
  | .ok d' => if d'.given.isEmpty then .displayHelpOnMissing else .missingSubcommand

/-- Reads both levels: what was read before the name of the command, the level, and the rest. -/
def levels (d : Draft) : List Text → Except UsageError (Draft × Level × Draft)
  | [] => .error (withoutCommand d)
  | w :: r =>
    if !d.optionsEnded && !d.awaitsValue && w = ("help" : Text) then .error (helpAbout r)
    else
      -- a name of a command may also be a value, and stands for itself behind two dashes
      match if d.optionsEnded || d.awaitsValue then none else Level.ofName? w with
      | some level => do
        let below ← level.read r
        return (← d.flush, level, below)
      | none =>
        match Draft.word .root d w with
        | .ok d' => levels d' r
        | .error e => .error e

/-! ## Requests -/

/-- The command that a level stands for, once its words are read. -/
def commandOf (level : Level) (d : Draft) : Command :=
  match level with
  | .lint =>
    .lint ((d.value? .file).getD []) (d.has .json) (d.has .severity) (d.values .excludeRule)
  | .deploy =>
    .deploy ((d.value? .contract).getD []) (d.value? .rpc)
      ((d.value? .timeout).bind Text.natural64?) (d.has .yes) (d.value? .passwordEnv)
  | _ => .init (d.has .force)

/-- More diagnostics cannot be asked for more often. -/
def mostVerbose : Nat := 255

/-- The request of two levels; for what both know, the words after the command count. -/
def request (above : Draft) (level : Level) (below : Draft) : Arguments where
  config := (below.value? .config).or (above.value? .config)
  noColor := below.has .noColor || above.has .noColor
  verbose :=
    min mostVerbose (if below.has .verbose then below.count .verbose else above.count .verbose)
  command := commandOf level below

def parse (words : List Text) : Except UsageError Arguments := do
  let (above, level, below) ← levels .empty words
  return request above level below

end CommandLine
end ContractAssist
