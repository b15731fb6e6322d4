import ContractAssist.Text.Validity

/-!
# Decoder — the bytes that are kept between two reads

The reads of a stream may end in the middle of a character.  The decoder of a stream is a buffer:
each piece is put behind what the buffer holds, and the buffer is emptied from the front, as far as
what it holds cannot change any more.

* `Decoder.turn` is one turn of the loop that empties the buffer, `Decoder.run` are some turns;
* `Decoder.decode` takes a piece, `Decoder.finish` gives what is owed at the end;
* `Decoder.texts` takes one piece after another.
-/

namespace ContractAssist

/-- The bytes that were read and not decoded yet. -/
structure Decoder where
  pending : Bytes
  deriving DecidableEq, Repr

namespace Decoder

open Utf8 (Verdict validate decode? replacement lossy)

/-- What one turn of the loop gives, and what it leaves in the buffer. -/
inductive Turn where
  | last (text : Text) (left : Bytes)
  | next (text : Text) (left : Bytes)
  deriving DecidableEq, Repr

/-- The characters in front of the buffer go, and what cannot be decoded behind them goes too. -/
def turn (pending : Bytes) : Turn :=
  match validate pending with
  | .valid => .last ((decode? pending).getD []) []
  -- more bytes may complete what is left
  | .invalid upTo none => .last ((decode? (pending.take upTo)).getD []) (pending.drop upTo)
  | .invalid upTo (some length) =>
    .next ((decode? (pending.take upTo)).getD [] ++ [replacement]) (pending.drop (upTo + length))

/-- At most so many turns of the loop; nothing, if it has not ended by then. -/
def run : Nat → Bytes → Option (Text × Bytes)
  | 0, _ => none
  | turns + 1, pending =>
    match turn pending with
    | .last text left => some (text, left)
    | .next text left => (run turns left).map fun (later, rest) => (text ++ later, rest)

/-- Takes a piece and gives what became certain with it. -/
def decode (d : Decoder) (piece : Bytes) : Option (Text × Decoder) :=
  let pending := d.pending ++ piece
  -- every turn but the last one takes a byte away
  (run (pending.length + 1) pending).map fun (text, left) => (text, ⟨left⟩)

def finish (d : Decoder) : Text :=
  lossy d.pending

def texts (d : Decoder) : List Bytes → Option (List Text × Decoder)
  | [] => some ([], d)
  | piece :: r =>
    (d.decode piece).bind fun (text, next) =>
      (next.texts r).map fun (later, last) => (text :: later, last)

end Decoder
end ContractAssist
