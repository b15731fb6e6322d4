import ContractAssist.Proofs.Text.Utf8
import ContractAssist.Stream.Reader

/-!
# Reader — what is read of a stream

A stream is read piece by piece and handed on in chunks.  However the reads cut it, the chunks are
the decoded text of all bytes up to the last read:

* `ReadOutcome.isLast`: a read after which a stream is not read any more;
* `Feeder` is the reader of a stream between two reads, and `Feeder.read` lets a read complete;
* `Feeder.deliver_cons`: the chunks of many reads are those of one read and then those of the rest;
* `Reader.received` are the bytes of some reads up to the last one, and `flatten_deliver` says that
  the chunks are the decoded text of just these.
-/

namespace ContractAssist

def ReadOutcome.isLast : ReadOutcome → Bool
  | .bytes piece => piece.isEmpty
  | .failure => true

def ReadOutcome.piece : ReadOutcome → Bytes
  | .bytes piece => piece
  | .failure => []

/-! ## One read after another -/

inductive Feeder where
  -- it goes on; a character may be unfinished
  | reading (carry : Utf8.Carry)
  | ended
  deriving DecidableEq, Repr

namespace Feeder

/-- A read completes: the chunks that it gives, and the reader after it. -/
def read : Feeder → ReadOutcome → List Text × Feeder
  | reading carry, .bytes (b :: piece) =>
    (if (carry.feed (b :: piece)).2.isEmpty then [] else [(carry.feed (b :: piece)).2],
      reading (carry.feed (b :: piece)).1)
  | reading carry, _ => (Reader.lastChunk carry, ended)
  | ended, _ => ([], ended)

/-- The chunks that a reader still gives when these reads complete. -/
def deliver : Feeder → List ReadOutcome → List Text
  | reading carry, reads => (Reader.deliver true carry reads).1
  | ended, _ => []

/-- The chunks of many reads are those of one read and then those of the rest. -/
theorem deliver_cons (f : Feeder) (outcome : ReadOutcome) (later : List ReadOutcome) :
    f.deliver (outcome :: later) = (f.read outcome).1 ++ (f.read outcome).2.deliver later := by
  match f, outcome with
  | ended, _ => rfl
  | reading carry, .failure => exact (List.append_nil _).symm
  | reading carry, .bytes [] => exact (List.append_nil _).symm
  | reading carry, .bytes (b :: piece) =>
    cases htext : (carry.feed (b :: piece)).2.isEmpty with
    | true => simp [deliver, read, Reader.deliver, htext]
    | false => simp [deliver, read, Reader.deliver, htext]

/-- A reader ends with its last read, and with no other. -/
theorem read_eq_ended_iff (carry : Utf8.Carry) (outcome : ReadOutcome) :
    ((reading carry).read outcome).2 = ended ↔ outcome.isLast = true := by
  match outcome with
  | .failure => simp [read, ReadOutcome.isLast]
  | .bytes [] => simp [read, ReadOutcome.isLast]
  | .bytes (b :: piece) => simp [read, ReadOutcome.isLast]

end Feeder

/-! ## The text of a stream -/

namespace Reader

/-- The bytes that some reads give up to the last one. -/
def received (reads : List ReadOutcome) : Bytes :=
  (reads.takeWhile fun outcome => !outcome.isLast).flatMap ReadOutcome.piece

theorem received_cons_bytes (b : UInt8) (piece : Bytes) (later : List ReadOutcome) :
    received (.bytes (b :: piece) :: later) = b :: piece ++ received later := by
  simp [received, ReadOutcome.isLast, ReadOutcome.piece]

theorem received_cons_last {outcome : ReadOutcome} (h : outcome.isLast = true)
    (later : List ReadOutcome) : received (outcome :: later) = [] := by
  simp [received, h]

theorem flatten_lastChunk (carry : Utf8.Carry) : (lastChunk carry).flatten = carry.flush := by
  unfold lastChunk
  split
  · next hempty =>
    rw [List.isEmpty_iff.1 hempty]
    rfl
  · exact List.flatten_singleton

/-- What a read gives is what became certain with it; an empty text is not even sent. -/
theorem flatten_read_bytes (carry : Utf8.Carry) (b : UInt8) (piece : Bytes) :
    ((Feeder.reading carry).read (.bytes (b :: piece))).1.flatten =
      (carry.units (b :: piece)).2.map Utf8.shown := by
  change (if (carry.feed (b :: piece)).2.isEmpty then []
      else [(carry.feed (b :: piece)).2]).flatten = (carry.feed (b :: piece)).2
  split
  · next hempty => exact (List.isEmpty_iff.1 hempty).symm
  · exact List.flatten_singleton

/-- The chunks of a stream are the decoded text of its bytes, after what its reader carries. -/
theorem flatten_deliver_reading (carry : Utf8.Carry) (reads : List ReadOutcome) :
    ((Feeder.reading carry).deliver reads).flatten =
      (carry.units (received reads)).2.map Utf8.shown ++
        (carry.units (received reads)).1.flush := by
  -- by induction on the reads: any but the last one leaves another carry behind
  induction reads generalizing carry with
  | nil => exact flatten_lastChunk carry
  | cons outcome later ih =>
    match outcome with
    | .failure =>
      rw [received_cons_last rfl]
      exact flatten_lastChunk carry
    | .bytes [] =>
      rw [received_cons_last rfl]
      exact flatten_lastChunk carry
    | .bytes (b :: piece) =>
      have hlater := ih (carry.units (b :: piece)).1
      calc
        ((Feeder.reading carry).deliver (.bytes (b :: piece) :: later)).flatten
            = (carry.units (b :: piece)).2.map Utf8.shown ++
                ((Feeder.reading (carry.units (b :: piece)).1).deliver later).flatten := by
              rw [Feeder.deliver_cons, List.flatten_append, flatten_read_bytes]
              rfl
        _ = (carry.units (received (.bytes (b :: piece) :: later))).2.map Utf8.shown ++
              (carry.units (received (.bytes (b :: piece) :: later))).1.flush := by
              rw [hlater, received_cons_bytes, Utf8.Carry.units_append, List.map_append,
                List.append_assoc]

/-- However the reads cut it, the chunks of a stream are its decoded text. -/
theorem flatten_deliver (reads : List ReadOutcome) :
    ((Feeder.reading none).deliver reads).flatten = Utf8.lossy (received reads) := by
  rw [flatten_deliver_reading, Utf8.lossy, Utf8.units, Utf8.Carry.flush, List.map_append]

end Reader
end ContractAssist
