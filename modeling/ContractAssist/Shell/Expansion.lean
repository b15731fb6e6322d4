import ContractAssist.Shell.Arithmetic
import ContractAssist.Shell.Field
import ContractAssist.Shell.State

/-!
# Expansion — what words stand for

Parameters, substitutions and expressions are replaced by their values. How commands are carried out
for a substitution is a parameter of all functions.

* `Expansion.fragments` expands a word;
* `Expansion.fields` gives its fields, `Expansion.text` its text as a whole;
* `Expansion.assignment` expands a word that is an assignment.
-/

namespace ContractAssist
namespace Shell

structure Expansion where
  isFull : Bool
  quoted : Bool
  -- can a tilde in front stand for a directory?
  tilde : Bool
  colons : Bool
  splits : Bool
  deriving DecidableEq, Repr, Inhabited

namespace Expansion

def full : Expansion := ⟨true, false, true, false, false⟩

def whole : Expansion := ⟨false, false, true, false, false⟩

def value : Expansion := ⟨false, false, true, true, false⟩

def hereText : Expansion := ⟨false, true, false, false, false⟩

/-! ## Tildes -/

def homeOf? (s : State) (user : Text) : Option Text :=
  if user.isEmpty then s.valueOf? "HOME" else if user = ("root" : Text) then some "/root" else none

/-- The fragments of a text that may begin with a tilde; does it end where its piece ends? -/
def tilded (s : State) (splits atEnd : Bool) (t : Text) : List Fragment :=
  match t with
  | '~' :: r =>
    let user := r.takeWhile (· ≠ '/')
    let rest := r.drop user.length
    match if rest.isEmpty && !atEnd then none else homeOf? s user with
    | some home => Fragment.ofLiteral true false home ++ Fragment.ofLiteral false splits rest
    | none => Fragment.ofLiteral false splits t
  | _ => Fragment.ofLiteral false splits t

def betweenColons : Text → List Text
  | [] => [[]]
  | c :: r =>
    if c = ':' then [] :: betweenColons r
    else
      match betweenColons r with
      | [] => [[c]]
      | part :: others => (c :: part) :: others

/-- The fragments of parts of a text with colons between them. -/
def joinColons (s : State) (splits atEnd : Bool) : Bool → List Text → List Fragment
  | _, [] => []
  | tilde, [part] =>
    if tilde then tilded s splits atEnd part else Fragment.ofLiteral false splits part
  | tilde, part :: next :: r =>
    (if tilde then tilded s splits true part else Fragment.ofLiteral false splits part)
      ++ .char ':' false splits :: joinColons s splits atEnd true (next :: r)

def literal (e : Expansion) (s : State) (atEnd : Bool) (t : Text) : List Fragment :=
  if e.colons then joinColons s e.splits atEnd e.tilde (betweenColons t)
  else if e.tilde then tilded s e.splits atEnd t
  else Fragment.ofLiteral false e.splits t

/-! ## Parameters -/

def missing {α : Type} (name : Text) : Act α :=
  Act.fail (name ++ ": parameter not set")

def isList (name : Text) : Bool :=
  name = ['@'] || name = ['*']

def valueFragments (e : Expansion) (s : State) (name value : Text) : List Fragment :=
  if isList name && e.isFull && (!e.quoted || name = ['@']) then
    Fragment.ofValues e.quoted s.arguments
  else Fragment.ofValue e.quoted value

def wanted (name : Text) : Act Text := do
  let s ← Act.get
  match s.parameter? name with
  | some value => return value
  | none => if s.has 'u' then missing name else return []

/-- The output of commands without the line ends at its end and without zeros. -/
def trimmedOutput (t : Text) : Text :=
  ((t.reverse.dropWhile (· = '\n')).reverse).filter (· ≠ '\x00')

/-! ## Words -/

mutual

/-- The fragments of a word; `fuel` bounds the depth of its pieces. -/
def fragments (run : Option Command → Act Text) :
    Nat → Expansion → Word → Act (List Fragment)
  | 0, _, _ => pure []
  | _, _, [] => pure []
  | fuel + 1, e, piece :: r => do
    let first ← pieceFragments run fuel e r.isEmpty piece
    let others ← fragments run fuel { e with tilde := false } r
    return first ++ others

def pieceFragments (run : Option Command → Act Text) :
    Nat → Expansion → Bool → Piece → Act (List Fragment)
  | 0, _, _, _ => pure []
  | _, e, _, .literal true text =>
    pure (if e.quoted then text.map fun c => .char c true false
      else Fragment.ofLiteral true false text)
  | _, e, atEnd, .literal false text => do
    let s ← Act.get
    return if e.quoted then text.map fun c => .char c true false else literal e s atEnd text
  | fuel + 1, e, _, .quoted body => do
    if e.quoted then fragments run fuel e body
    else
      let inside ← fragments run fuel { e with quoted := true, tilde := false } body
      match body with
      | [.parameter ['@'] .plain] => return if e.isFull then inside else .mark :: inside
      | _ => return .mark :: inside
  | fuel + 1, e, _, .parameter name use => parameterFragments run fuel e name use
  | _, e, _, .substitution body => do
    return Fragment.ofValue e.quoted (trimmedOutput (← run body))
  | fuel + 1, e, _, .arithmetic body => do
    let expression := Fragment.text (← fragments run fuel hereText body)
    let s ← Act.get
    match Arithmetic.evaluate (fun name => (s.parameter? name).getD []) expression with
    | .ok (n, made) => do
      let _ ← made.mapM fun a => Act.assign a.1 (Arithmetic.ofInt a.2)
      return Fragment.ofValue e.quoted (Arithmetic.ofInt n)
    | .error fault => Act.fail (fault.message expression)

/-- The fragments of a parameter that is used in some way. -/
def parameterFragments (run : Option Command → Act Text) :
    Nat → Expansion → Text → Use → Act (List Fragment)
  | 0, _, _, _ => pure []
  | _, e, name, .plain => do
    let s ← Act.get
    match s.parameter? name with
    | some value => return valueFragments e s name value
    | none => if s.has 'u' then missing name else return []
  | _, e, name, .length => do
    return Fragment.ofValue e.quoted (Text.ofNat (← wanted name).length)
  | fuel + 1, e, name, .orElse empty action word => do
    let s ← Act.get
    let value? := s.parameter? name
    let isSet := value?.isSome && !(empty && value? = some [])
    let inside : Expansion := { e with tilde := !e.quoted, splits := !e.quoted }
    match action, isSet with
    | .invert, true => fragments run fuel inside word
    | .invert, false => return []
    | _, true => return valueFragments e s name (value?.getD [])
    | .replace, false => fragments run fuel inside word
    | .assign, false => do
      let text := Fragment.text (← fragments run fuel { inside with isFull := false } word)
      Act.assign name text
      return Fragment.ofValue e.quoted text
    | .fail, false => do
      if word.isEmpty then
        Act.fail (name ++ ": parameter not set" ++ (if empty then (" or null" : Text) else []))
      else
        let text := Fragment.text (← fragments run fuel { inside with isFull := false } word)
        Act.fail (name ++ ": " ++ text)
  | fuel + 1, e, name, .trimmed front longest pattern => do
    let value ← wanted name
    let found ← fragments run fuel { whole with tilde := true } pattern
    let p := found.filterMap Fragment.patternChar?
    return Fragment.ofValue e.quoted (Pattern.trim p front longest value)
  | _, _, _, .bad => Act.fail "Bad substitution"

end

def fields (run : Option Command → Act Text) (fuel : Nat) (word : Word) : Act (List Text) := do
  let found ← fragments run fuel full word
  let s ← Act.get
  let fields := Field.split s.separators found
  if !s.has 'f' && fields.any Pattern.isActive then
    let files ← Act.tree
    return fields.flatMap (Field.paths files)
  else return fields.map Field.text

def text (run : Option Command → Act Text) (fuel : Nat) (e : Expansion) (word : Word) :
    Act Text := do
  return Fragment.text (← fragments run fuel e word)

def pattern (run : Option Command → Act Text) (fuel : Nat) (word : Word) : Act Pattern := do
  return (← fragments run fuel whole word).filterMap Fragment.patternChar?

def assignment (run : Option Command → Act Text) (fuel : Nat) (word : Word) : Act Text := do
  match word with
  | .literal false t :: others =>
    let name := t.takeWhile (· ≠ '=')
    let rest := t.drop (name.length + 1)
    let value' : Word := if rest.isEmpty then others else .literal false rest :: others
    return name ++ '=' :: (← text run fuel value value')
  | _ => text run fuel whole word

end Expansion
end Shell
end ContractAssist
