import ContractAssist.Text.Octets

/-!
# Pattern — texts that match

In a pattern a star stands for any characters, a question mark for one, and brackets for one of
those between them: characters, ranges, or classes that have a name. A quoted character stands for
itself.

* `Pattern.accepts` says whether a text matches;
* `Pattern.trim` removes a matching part at one end of a text.
-/

namespace ContractAssist
namespace Shell

/-- The characters of a pattern; is each of them quoted? -/
abbrev Pattern := List (Char × Bool)

namespace Pattern

/-- A pattern in which a backslash has quoted the character after it. -/
def unescaped : Pattern → Pattern
  | ('\\', false) :: (c, _) :: r => (c, true) :: unescaped r
  | x :: r => x :: unescaped r
  | [] => []

def someEnd (holds : Text → Bool) : Text → Bool
  | [] => holds []
  | c :: r => holds (c :: r) || someEnd holds r

def isOfClass? (name : Text) (c : Char) : Option Bool :=
  let n := c.toNat
  let isPrinted := 32 < n && n < 127
  match String.ofList name with
  | "alpha" => some c.isAlpha
  | "digit" => some c.isDigit
  | "alnum" => some c.isAlphanum
  | "upper" => some c.isUpper
  | "lower" => some c.isLower
  | "space" => some (c = ' ' || (9 ≤ n && n ≤ 13))
  | "blank" => some (c = ' ' || c = '\t')
  | "punct" => some (isPrinted && !c.isAlphanum)
  | "print" => some (isPrinted || c = ' ')
  | "graph" => some isPrinted
  | "cntrl" => some (n < 32 || n = 127)
  | "xdigit" => some (Text.hexDigitValue? c).isSome
  | _ => none

/-- The name of the class that a pattern begins with after a bracket, and what follows it. -/
def className? (p : Pattern) : Option (Text × Pattern) :=
  match p with
  | (':', false) :: r =>
    let name := r.takeWhile fun x => x.1.isAlpha
    match r.drop name.length with
    | (':', false) :: (']', false) :: rest => some (name.map Prod.fst, rest)
    | _ => none
  | _ => none

/--
Is the character one of those up to a closing bracket, and what follows that? The number of
characters of the pattern is enough for `fuel`; the first of them closes nothing.
-/
def inBrackets (c : Char) : Nat → Bool → Bool → Pattern → Option (Bool × Pattern)
  | 0, _, _, _ => none
  | _, _, _, [] => none
  | fuel + 1, first, found, (a, q) :: r =>
    if a = ']' && !q && !first then some (found, r)
    else
      match if a = '[' && !q then className? r else none with
      | some (name, rest) =>
        match isOfClass? name c with
        | some isIn => inBrackets c fuel false (found || isIn) rest
        | none => inBrackets c fuel false (found || a = c) r
      | none =>
        match r with
        | ('-', false) :: (b, s) :: rest =>
          if b = ']' && !s then inBrackets c fuel false (found || a = c) r
          else inBrackets c fuel false (found || (a ≤ c && c ≤ b)) rest
        | _ => inBrackets c fuel false (found || a = c) r

/-- Is the character one of those that brackets stand for, and what follows them? -/
def brackets? (c : Char) (p : Pattern) : Option (Bool × Pattern) :=
  let (inverted, p) := match p with
    | ('!', false) :: r => (true, r)
    | ('^', false) :: r => (true, r)
    | r => (false, r)
  (inBrackets c p.length true false p).map fun x => (x.1 != inverted, x.2)

/-- Does a text match? The number of characters of the pattern is enough for `fuel`. -/
def acceptsWithin : Nat → Pattern → Text → Bool
  | _, [], t => t.isEmpty
  | 0, _, _ => false
  | fuel + 1, ('*', false) :: p, t => someEnd (acceptsWithin fuel p) t
  | fuel + 1, ('?', false) :: p, t =>
    match t with
    | [] => false
    | _ :: r => acceptsWithin fuel p r
  | fuel + 1, (a, q) :: p, t =>
    match t with
    | [] => false
    | c :: r =>
      match if a = '[' && !q then brackets? c p else none with
      | some (isIn, rest) => isIn && acceptsWithin fuel rest r
      | none => a = c && acceptsWithin fuel p r

def accepts (p : Pattern) (t : Text) : Bool :=
  let p := unescaped p
  acceptsWithin p.length p t

def isActive (p : Pattern) : Bool :=
  (unescaped p).any fun x => !x.2 && (x.1 = '*' || x.1 = '?' || x.1 = '[')

/-- The text without the shortest or longest front, or end, that matches. -/
def trim (p : Pattern) (front longest : Bool) (t : Text) : Text :=
  let sizes := List.range (t.length + 1)
  let sizes := if longest then sizes.reverse else sizes
  if front then
    match sizes.find? fun n => p.accepts (t.take n) with
    | some n => t.drop n
    | none => t
  else
    match sizes.find? fun n => p.accepts (t.drop (t.length - n)) with
    | some n => t.take (t.length - n)
    | none => t

end Pattern
end Shell
end ContractAssist
