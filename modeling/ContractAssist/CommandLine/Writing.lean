import ContractAssist.CommandLine.Parser

/-!
# Writing — from a request to words

A request has many command lines.  The options that all commands understand stand before the name
of the command or after it, options come in any order, and many of them have two spellings.  What a
request does not ask for is not written.

* `Arguments.general` and `Command.own` are the options that a request gives;
* `Spells` says how options are written in one word, `SpellsAll` how they are written in several;
* `Arguments.Written` says which words are a command line of a request;
* `Arguments.words` is one of them.
-/

namespace ContractAssist
namespace CommandLine

/-! ## What a request gives -/

def flag (o : Opt) (given : Bool) : List (Opt × Text) :=
  if given then [(o, [])] else []

def setting (o : Opt) (value : Option Text) : List (Opt × Text) :=
  value.toList.map fun v => (o, v)

/-- The options that all commands understand. -/
def Arguments.general (a : Arguments) : List (Opt × Text) :=
  setting .config a.config ++ flag .noColor a.noColor ++ List.replicate a.verbose (.verbose, [])

namespace Command

def level : Command → Level
  | lint .. => .lint
  | deploy .. => .deploy
  | init .. => .init

def name : Command → Text
  | lint .. => "lint"
  | deploy .. => "deploy"
  | init .. => "init"

/-- The options that it alone understands. -/
def own : Command → List (Opt × Text)
  | lint _ json errorsOnly excludeRules =>
    flag .json json ++ setting .severity (if errorsOnly then some "error" else none)
      ++ excludeRules.map fun code => (.excludeRule, code)
  | deploy contract rpc timeout yes passwordEnv =>
    setting .contract (some contract) ++ setting .rpc rpc
      ++ setting .timeout (timeout.map Text.ofNat) ++ flag .yes yes
      ++ setting .passwordEnv passwordEnv
  | init force => flag .force force

def file? : Command → Option Text
  | lint file .. => some file
  | _ => none

/-- The words behind all options; two dashes keep the file from being taken for an option. -/
def closing (c : Command) : List Text :=
  match c.file? with
  | some file => ["--", file]
  | none => []

end Command

/-! ## Spellings -/

/-- Options in a word of one dash, behind the dash: flags, and perhaps an option with its value. -/
inductive Letters : List (Opt × Text) → Text → Prop where
  | flag {o c} (hc : o.short? = some c) (ho : o.takesValue = false) : Letters [(o, [])] [c]
  -- the last option has a value, behind an equals sign
  | value {o c} (hc : o.short? = some c) (ho : o.takesValue = true) (value : Text) :
      Letters [(o, value)] (c :: '=' :: value)
  | more {o c given letters} (hc : o.short? = some c) (ho : o.takesValue = false)
      (h : Letters given letters) : Letters ((o, []) :: given) (c :: letters)

inductive Spells : List (Opt × Text) → Text → Prop where
  | flag {o name} (hname : o.long? = some name) (ho : o.takesValue = false) :
      Spells [(o, [])] ('-' :: '-' :: name)
  -- an option behind two dashes, with its value behind an equals sign
  | value {o name} (hname : o.long? = some name) (ho : o.takesValue = true) (value : Text) :
      Spells [(o, value)] ('-' :: '-' :: (name ++ '=' :: value))
  | letters {given letters} (h : Letters given letters) : Spells given ('-' :: letters)

inductive SpellsAll : List (Opt × Text) → List Text → Prop where
  | nil : SpellsAll [] []
  | cons {given word later words} (h : Spells given word) (hlater : SpellsAll later words) :
      SpellsAll (given ++ later) (word :: words)

/-! ## Command lines -/

def valuesOf (given : List (Opt × Text)) (o : Opt) : List Text :=
  (given.filter fun g => g.1 = o).map Prod.snd

/-- The same options with the same values, in an order that may differ between options. -/
def Rearranges (given options : List (Opt × Text)) : Prop :=
  ∀ o, valuesOf given o = valuesOf options o

inductive Place where
  | before
  | after
  deriving DecidableEq, Repr

inductive Arguments.Written (a : Arguments) : Place → List Text → Prop where
  | before {general own first later} (hgeneral : Rearranges general a.general)
      (hown : Rearranges own a.command.own) (hfirst : SpellsAll general first)
      (hlater : SpellsAll own later) :
      Written a .before (first ++ a.command.name :: (later ++ a.command.closing))
  | after {given later} (hgiven : Rearranges given (a.general ++ a.command.own))
      (hlater : SpellsAll given later) :
      Written a .after (a.command.name :: (later ++ a.command.closing))

def spelling (g : Opt × Text) : Text :=
  '-' :: '-' :: ((g.1.long?).getD [] ++ if g.1.takesValue then '=' :: g.2 else [])

def Arguments.words (a : Arguments) : Place → List Text
  | .before =>
    a.general.map spelling ++ a.command.name :: (a.command.own.map spelling ++ a.command.closing)
  | .after => a.command.name :: ((a.general ++ a.command.own).map spelling ++ a.command.closing)

/-! ## Requests that can be written -/

/-- The paths are not empty, and the time to wait is a number of 64 bits. -/
def Command.Expressible : Command → Prop
  | lint file .. => file ≠ []
  | deploy contract _ timeout _ _ => contract ≠ [] ∧ ∀ seconds ∈ timeout, seconds < Nat.pow 2 64
  | init _ => True

structure Arguments.Expressible (a : Arguments) : Prop where
  verbose : a.verbose ≤ mostVerbose
  command : a.command.Expressible

end CommandLine
end ContractAssist
