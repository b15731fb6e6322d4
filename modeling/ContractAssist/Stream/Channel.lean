import ContractAssist.Stream.Decoder
import ContractAssist.Stream.Reader

/-!
# Channel — the chunks of a stream on their way

A stream is read through a buffer, and what its reads decode to is sent over a channel.  Whoever is
at the other end may leave, and there is nothing to read for after that.

* `Receiver` is the other end of a channel;
* `Reader.forward` reads, decodes and sends, until there is nothing to read or nobody to send to;
* `Reader.spawn` does so from the beginning of a stream, if there is one.
-/

namespace ContractAssist

inductive Receiver where
  | staying
  -- it takes so many more chunks, and is gone
  | leaving (after : Nat)
  deriving DecidableEq, Repr, Inhabited

/-- The receiver after one more chunk; nothing, if it is gone already. -/
def Receiver.take? : Receiver → Option Receiver
  | staying => some staying
  | leaving 0 => none
  | leaving (n + 1) => some (leaving n)

namespace Reader

/-- What is sent when no more bytes come, if somebody takes it. -/
def owed (stream : StreamKind) (receiver : Receiver) (d : Decoder) : List Chunk :=
  if d.finish.isEmpty then []
  else
    match receiver.take? with
    | some _ => [⟨stream, d.finish⟩]
    | none => []

/--
Sends what the reads of a stream decode to, up to its end or a read that fails: the chunks that were
taken, and how many reads were made.  A read that completes no character sends nothing.
-/
def forward (stream : StreamKind) (receiver : Receiver) (d : Decoder) :
    List ReadOutcome → Option (List Chunk × Nat)
  | .bytes (b :: piece) :: r =>
    (d.decode (b :: piece)).bind fun (text, next) =>
      if text.isEmpty then
        (forward stream receiver next r).map fun (chunks, reads) => (chunks, reads + 1)
      else
        match receiver.take? with
        -- for nobody the stream is not read on
        | none => some ([], 1)
        | some receiver =>
          (forward stream receiver next r).map fun (chunks, reads) =>
            (⟨stream, text⟩ :: chunks, reads + 1)
  | _ => some (owed stream receiver d, 1)

def spawn (stream : StreamKind) (receiver : Receiver) :
    Option (List ReadOutcome) → Option (List Chunk × Nat)
  | none => some ([], 0)
  | some script => forward stream receiver ⟨[]⟩ (script.flatMap split)

end Reader
end ContractAssist
