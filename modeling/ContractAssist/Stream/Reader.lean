import ContractAssist.Text.Utf8

/-!
# Reader — from the reads of a stream to chunks of text

A child program writes bytes to two streams. Each stream is read until it ends or a read fails, and
every read that completes at least one character becomes a chunk of text.

* `StreamKind` names the stream;
* `Reader.deliver` gives the chunks of a stream and the number of reads made.
-/

namespace ContractAssist

inductive StreamKind where
  | output
  | diagnostics
  deriving DecidableEq, Repr, Inhabited

structure Chunk where
  stream : StreamKind
  text : Text
  deriving DecidableEq, Repr, Inhabited

inductive ReadOutcome where
  -- bytes; none of them means the end of the stream
  | bytes (piece : Bytes)
  | failure
  deriving DecidableEq, Repr, Inhabited

namespace Reader

/-- A read gives at most so many bytes. -/
def bufferSize : Nat := 4096

/-- Cuts bytes into pieces that fit into a read; `fuel` bounds the number of cuts. -/
def cut : Nat → Bytes → List Bytes
  | 0, bytes => [bytes]
  | fuel + 1, bytes =>
    if bytes.length ≤ bufferSize then [bytes]
    else bytes.take bufferSize :: cut fuel (bytes.drop bufferSize)

/-- The pieces in which bytes are read when they all are there at once. -/
def pieces (bytes : Bytes) : List Bytes :=
  cut (bytes.length / bufferSize) bytes

/-- The reads that a larger read falls into. -/
def split : ReadOutcome → List ReadOutcome
  | .bytes piece => (pieces piece).map .bytes
  | .failure => [.failure]

/-- What the reader still owes when no more bytes come. -/
def lastChunk (carry : Utf8.Carry) : List Text :=
  if carry.flush.isEmpty then [] else [carry.flush]

/--
Reads until the stream ends or a read fails: the chunks, and how many reads were made. Without a
consumer the first chunk ends the reading and nothing is delivered.
-/
def deliver (consumer : Bool) (carry : Utf8.Carry) : List ReadOutcome → List Text × Nat
  | .bytes (b :: piece) :: r =>
    match carry.feed (b :: piece) with
    | (next, text) =>
      if text.isEmpty then
        match deliver consumer next r with
        | (chunks, reads) => (chunks, reads + 1)
      else if consumer then
        match deliver consumer next r with
        | (chunks, reads) => (text :: chunks, reads + 1)
      else ([], 1)
  -- a read without bytes is the end, a failure ends the stream too, and so does the list of reads
  | _ => (if consumer then lastChunk carry else [], 1)

end Reader
end ContractAssist
