import ContractAssist.Text.Basic

/-!
# Text.Pattern — looking for a pattern in a text

A pattern is a regular expression with numbered groups.  A match tells, in bytes of the UTF-8 form,
which part of the text matches and which part of it belongs to a group.

* `Pattern` is the syntax, `Pattern.Matches` says what matches at a place, and `Pattern.Occurs` what
  is a match in a text;
* `Searcher` is whatever looks for patterns, and `Searcher.LeftmostFor` says that it finds a match
  that no other one begins before;
* `Pattern.search` is such a searcher, which tries every place and every way to match there.
-/

namespace ContractAssist
namespace Text

/-! ## Syntax -/

inductive Pattern where
  | one (accepts : Char → Bool)
  | times (n : Nat) (p : Pattern)
  | seq (p q : Pattern)
  -- one of two; the first one is preferred
  | either (p q : Pattern)
  -- what matches belongs to the group of this number
  | group (number : Nat) (p : Pattern)
  | atEnd

/-- A part of a text: the offset where it starts, and the offset behind it. -/
structure Extent where
  start : Nat
  stop : Nat
  deriving DecidableEq, Repr, Inhabited

/-- The parts that belong to groups, with their numbers, in order. -/
abbrev Groups := List (Nat × Extent)

structure Match where
  whole : Extent
  groups : Groups
  deriving DecidableEq, Repr, Inhabited

/-- The part that belongs to a group, of several the last; the group zero is the whole match. -/
def Match.group? (m : Match) (number : Nat) : Option Extent :=
  if number = 0 then some m.whole
  else (m.groups.reverse.find? fun g => g.1 = number).map Prod.snd

namespace Pattern

/-! ## What matches -/

/--
A pattern matches from an offset with `t` behind it up to an offset with `rest` behind it.
-/
inductive Matches : Pattern → Nat → Text → Nat → Text → Groups → Prop where
  | one {accepts c start rest} (h : accepts c = true) :
      Matches (.one accepts) start (c :: rest) (start + c.utf8Size) rest []
  | zero {p start t} : Matches (.times 0 p) start t start t []
  | succ {n p start t middle between stop rest first later}
      (hfirst : Matches p start t middle between first)
      (hlater : Matches (.times n p) middle between stop rest later) :
      Matches (.times (n + 1) p) start t stop rest (first ++ later)
  | seq {p q start t middle between stop rest first later}
      (hfirst : Matches p start t middle between first)
      (hlater : Matches q middle between stop rest later) :
      Matches (.seq p q) start t stop rest (first ++ later)
  | left {p q start t stop rest groups} (h : Matches p start t stop rest groups) :
      Matches (.either p q) start t stop rest groups
  | right {p q start t stop rest groups} (h : Matches q start t stop rest groups) :
      Matches (.either p q) start t stop rest groups
  | group {number p start t stop rest groups} (h : Matches p start t stop rest groups) :
      Matches (.group number p) start t stop rest ((number, ⟨start, stop⟩) :: groups)
  | atEnd {start} : Matches .atEnd start [] start [] []

/-- A match of the pattern in a text, wherever it starts. -/
def Occurs (p : Pattern) (t : Text) (m : Match) : Prop :=
  ∃ front behind rest, t = front ++ behind ∧ m.whole.start = byteSize front ∧
    p.Matches m.whole.start behind m.whole.stop rest m.groups

end Pattern

/-! ## Searching -/

abbrev Searcher := Pattern → Text → Option Match

/-- A pattern that occurs is found, and no match of it starts before the one that is found. -/
structure Searcher.LeftmostFor (search : Searcher) (p : Pattern) : Prop where
  occurs : ∀ t m, search p t = some m → p.Occurs t m
  least : ∀ t m, search p t = some m → ∀ m', p.Occurs t m' → m.whole.start ≤ m'.whole.start
  missing : ∀ t, search p t = none → ∀ m, ¬ p.Occurs t m

namespace Pattern

structure Way where
  stop : Nat
  rest : Text
  groups : Groups
  deriving DecidableEq, Repr, Inhabited

/-- The ways to match from an offset, with the text behind it; the preferred ones come first. -/
abbrev Matcher := Nat → Text → List Way

def Matcher.one (accepts : Char → Bool) : Matcher
  | _, [] => []
  | start, c :: rest => if accepts c then [⟨start + c.utf8Size, rest, []⟩] else []

def Matcher.andThen (first later : Matcher) : Matcher := fun start t =>
  (first start t).flatMap fun way =>
    (later way.stop way.rest).map fun next => { next with groups := way.groups ++ next.groups }

def Matcher.repeated (part : Matcher) : Nat → Matcher
  | 0 => fun start t => [⟨start, t, []⟩]
  | n + 1 => part.andThen (part.repeated n)

def ways : Pattern → Matcher
  | one accepts => Matcher.one accepts
  | times n p => Matcher.repeated p.ways n
  | seq p q => Matcher.andThen p.ways q.ways
  | either p q => fun start t => p.ways start t ++ q.ways start t
  | group number p => fun start t =>
    (p.ways start t).map fun way =>
      { way with groups := (number, ⟨start, way.stop⟩) :: way.groups }
  | atEnd => fun start t => if t.isEmpty then [⟨start, [], []⟩] else []

/-- The preferred match that starts here. -/
def matchHere? (p : Pattern) (start : Nat) (t : Text) : Option Match :=
  (p.ways start t).head?.map fun way => ⟨⟨start, way.stop⟩, way.groups⟩

/-- The preferred match at the first place, from this one on, where there is any. -/
def searchFrom? (p : Pattern) (start : Nat) : Text → Option Match
  | [] => p.matchHere? start []
  | c :: rest =>
    (p.matchHere? start (c :: rest)).or (p.searchFrom? (start + c.utf8Size) rest)

def search : Searcher := fun p t =>
  p.searchFrom? 0 t

end Pattern
end Text
end ContractAssist
