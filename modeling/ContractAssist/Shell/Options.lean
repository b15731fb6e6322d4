import ContractAssist.Text.Basic

/-!
# Options — letters in front of arguments

* `Options.leading` reads options that come before all other arguments;
* `Options.withLong` reads long options too, which may stand among other arguments.
-/

namespace ContractAssist
namespace Shell

/-- An option with its argument, which is empty if it takes none. -/
structure GivenOption where
  letter : Char
  argument : Text
  deriving DecidableEq, Repr, Inhabited

inductive OptionFault where
  | unknown (letter : Char)
  | unknownLong (name : Text)
  | noArgument (letter : Char)
  -- the argument of a long option is missing
  | noLongArgument (name : Text)
  | longArgument (name : Text)
  deriving DecidableEq, Repr, Inhabited

structure Options where
  given : List GivenOption
  others : List Text
  deriving DecidableEq, Repr, Inhabited

namespace Options

def has (o : Options) (letter : Char) : Bool :=
  o.given.any fun g => g.letter = letter

def argument? (o : Options) (letter : Char) : Option Text :=
  (o.given.reverse.find? fun g => g.letter = letter).map GivenOption.argument

def last? (o : Options) (letters : List Char) : Option Char :=
  (o.given.reverse.find? fun g => letters.contains g.letter).map GivenOption.letter

/-- What is known about a letter: `none` if it is no option, else whether it takes an argument. -/
def takes? (allowed : Text) (letter : Char) : Option Bool :=
  match allowed with
  | [] => none
  | c :: r =>
    if c = letter && c ≠ ':' then some (r.head? = some ':') else takes? r letter

/-- Reads the letters of one argument; the answer may end in an option that wants the next one. -/
def letters (allowed : Text) : Text → Except OptionFault (List GivenOption × Option Char)
  | [] => .ok ([], none)
  | c :: r =>
    match takes? allowed c with
    | none => .error (.unknown c)
    | some false => (letters allowed r).map fun x => (⟨c, []⟩ :: x.1, x.2)
    | some true => .ok (if r.isEmpty then ([], some c) else ([⟨c, r⟩], none))

def after (found : List GivenOption) (o : Options) : Options :=
  { o with given := found ++ o.given }

/--
Reads options up to the first other argument; the option `wanting` takes the first argument.
-/
def leading (allowed : Text) : Option Char → List Text → Except OptionFault Options
  | none, [] => .ok ⟨[], []⟩
  | some c, [] => .error (.noArgument c)
  | some c, a :: r => (leading allowed none r).map (after [⟨c, a⟩])
  | none, a :: r =>
    match a with
    | ['-', '-'] => .ok ⟨[], r⟩
    | '-' :: c :: cs => do
      let (found, wanting) ← letters allowed (c :: cs)
      return after found (← leading allowed wanting r)
    | _ => .ok ⟨[], a :: r⟩

/-- The long option that a name stands for, perhaps shortened: its letter, and does it take one? -/
def long? (names : List (Text × Char × Bool)) (name : Text) : Option (Char × Bool) :=
  match names.find? fun n => n.1 = name with
  | some (_, found) => some found
  | none =>
    match names.filter fun n => name.isPrefixOf n.1 with
    | [(_, found)] => some found
    | _ => none

/-- Reads a long option, given without its dashes; it may want the next argument. -/
def longOption (names : List (Text × Char × Bool)) (long : Text) :
    Except OptionFault (List GivenOption × Option (Char × Text)) :=
  let name := long.takeWhile (· ≠ '=')
  let attached := (long.drop name.length).tail
  let isAttached : Bool := name.length < long.length
  match long? names name with
  | none => .error (.unknownLong (("--" : Text) ++ long))
  | some (letter, takes) =>
    if isAttached then
      if takes then .ok ([⟨letter, attached⟩], none)
      else .error (.longArgument (("--" : Text) ++ name))
    else .ok (if takes then ([], some (letter, "--" ++ name)) else ([⟨letter, []⟩], none))

/--
Reads options, also long ones with the names `names`: wherever they stand if `mixed` is set, else
those before the first other argument. The option `wanting`, which has a letter and perhaps a long
name, takes the first argument.
-/
def withLong (allowed : Text) (names : List (Text × Char × Bool)) (mixed : Bool) :
    Option (Char × Text) → List Text → Except OptionFault Options
  | none, [] => .ok ⟨[], []⟩
  | some (c, name), [] => .error (if name.isEmpty then .noArgument c else .noLongArgument name)
  | some (c, _), a :: r => (withLong allowed names mixed none r).map (after [⟨c, a⟩])
  | none, a :: r =>
    match a with
    | ['-', '-'] => .ok ⟨[], r⟩
    | '-' :: '-' :: long => do
      let (found, wanting) ← longOption names long
      return after found (← withLong allowed names mixed wanting r)
    | '-' :: c :: cs => do
      let (found, wanting) ← letters allowed (c :: cs)
      return after found (← withLong allowed names mixed (wanting.map fun c => (c, [])) r)
    | _ =>
      if mixed then do
        let o ← withLong allowed names mixed none r
        return { o with others := a :: o.others }
      else .ok ⟨[], a :: r⟩

end Options
end Shell
end ContractAssist
