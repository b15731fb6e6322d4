import ContractAssist.Text.Basic

/-!
# Duration — spans and points of time

Time is counted in nanoseconds.

* `Duration` is a span, `Instant` a point on a clock;
* `Instant.after?` moves along the clock as far as the clock can count;
* `Duration.format` writes a span for people, in whole milliseconds.
-/

namespace ContractAssist

structure Duration where
  nanos : Nat
  deriving DecidableEq, Repr, Inhabited

structure Instant where
  nanos : Nat
  deriving DecidableEq, Repr, Inhabited

namespace Duration

def nanosPerMilli : Nat := 1000000

def nanosPerSecond : Nat := 1000000000

/-- The longest span: its seconds fill 64 bits. -/
def longest : Duration := ⟨Nat.pow 2 64 * nanosPerSecond - 1⟩

def ofSeconds (n : Nat) : Duration := ⟨n * nanosPerSecond⟩

def ofMillis (n : Nat) : Duration := ⟨n * nanosPerMilli⟩

/-- The sum of two spans, at most the longest span. -/
def saturatingAdd (a b : Duration) : Duration :=
  ⟨min (a.nanos + b.nanos) longest.nanos⟩

def atMost (a b : Duration) : Duration :=
  ⟨min a.nanos b.nanos⟩

def seconds (d : Duration) : Nat :=
  d.nanos / nanosPerSecond

def millis (d : Duration) : Nat :=
  d.nanos / nanosPerMilli

/-! ## Writing -/

/--
A span for people: below a second in milliseconds, a whole number of hours or minutes as such, other
whole seconds in seconds, and the rest in seconds with three decimals.
-/
def format (d : Duration) : Text :=
  let secs := d.seconds
  let millis := d.millis % 1000
  if secs = 0 then Text.ofNat millis ++ "ms"
  else if millis = 0 then
    if secs % 3600 = 0 then Text.ofNat (secs / 3600) ++ "h"
    else if secs % 60 = 0 then Text.ofNat (secs / 60) ++ "m"
    else Text.ofNat secs ++ "s"
  else Text.ofNat secs ++ "." ++ Text.ofNatPadded 3 millis ++ "s"

end Duration

namespace Instant

/-- The clock counts up to this many nanoseconds. -/
def limit : Nat := Nat.pow 2 63 * Duration.nanosPerSecond

/-- The instant `d` later, if the clock can count that far. -/
def after? (i : Instant) (d : Duration) : Option Instant :=
  if i.nanos + d.nanos < limit then some ⟨i.nanos + d.nanos⟩ else none

/-- The instant `d` later, or the same one if the clock cannot count that far. -/
def afterOrSame (i : Instant) (d : Duration) : Instant :=
  (i.after? d).getD i

def reached (i j : Instant) : Bool :=
  j.nanos ≤ i.nanos

end Instant

end ContractAssist
