import ContractAssist.Text.Basic

/-!
# Text.Slice — texts that are cut at byte offsets

An offset counts the bytes of the UTF-8 form in front of it.  There is nothing to be had from an
offset that is inside a character or behind the end of the text, so each cut may fail.

* `Text.splitAtByte?` cuts in two, `Text.fromByte?` gives what is behind an offset, and
  `Text.slice?` what is between two;
* `Text.boundaryFrom?` looks for the next offset at which a text may be cut, and
  `Text.floorBoundary` for the last one.
-/

namespace ContractAssist
namespace Text

/-- The text in front of an offset, and the text behind it. -/
def splitAtByte? : Nat → Text → Option (Text × Text)
  | 0, t => some ([], t)
  | _ + 1, [] => none
  | n + 1, c :: r =>
    if c.utf8Size ≤ n + 1 then
      (splitAtByte? (n + 1 - c.utf8Size) r).map fun (front, rest) => (c :: front, rest)
    else none

/-- Does the offset fall between two characters, or at an end of the text? -/
def isBoundary (offset : Nat) (t : Text) : Bool :=
  (splitAtByte? offset t).isSome

def fromByte? (start : Nat) (t : Text) : Option Text :=
  (splitAtByte? start t).map Prod.snd

def slice? (start stop : Nat) (t : Text) : Option Text :=
  if start ≤ stop then
    (fromByte? start t).bind fun rest => (splitAtByte? (stop - start) rest).map Prod.fst
  else none

/-- The first offset from this one on at which the text may be cut; nothing after so many turns. -/
def boundaryFrom? (t : Text) : Nat → Nat → Option Nat
  | 0, _ => none
  | turns + 1, offset =>
    if isBoundary offset t then some offset else boundaryFrom? t turns (offset + 1)

/-- The last offset up to this one at which the text may be cut. -/
def floorBoundary (t : Text) : Nat → Nat
  | 0 => 0
  | n + 1 => if isBoundary (n + 1) t then n + 1 else floorBoundary t n

end Text
end ContractAssist
