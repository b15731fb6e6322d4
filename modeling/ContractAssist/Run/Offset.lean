import ContractAssist.Address.Offset
import ContractAssist.Prompt.Offset
import ContractAssist.Run.Step

/-!
# Run.Offset — taking note of output by byte offsets

A run keeps all its output and looks for an address in what is behind some offset of it.  This
offset is taken from the sizes of texts, and so is every other one at which output is cut: each cut
may fail, and a run where one fails comes to nothing.

* `Run.newAddressBy?` looks for an address in the last bytes of the output and in a chunk;
* `Run.absorbByOffset` takes note of a chunk;
* `Run.finalAddressBy?` looks for the address that the run comes to.
-/

namespace ContractAssist
namespace Run

open Text (Searcher)

/-- The address that a chunk makes certain, looked for in the last bytes of the output with it. -/
def newAddressBy? (search : Searcher) (r : Run) (text : Text) : Option (Option Text) :=
  let start := Text.floorBoundary r.output (Text.byteSize r.output - lookBack)
  match r.address? with
  | some _ => some none
  | none => (Text.fromByte? start (r.output ++ text)).bind (Address.findDelimitedBy? search)

def hearByOffset (r : Run) (now : Instant) (chunk : Chunk) : Option (Run × List Effect) :=
  (r.session.observeByOffset chunk.text now).map fun (session, seen) =>
    ({ r with
        session := session
        heard := chunk :: r.heard
        recent := ending (r.recent ++ chunk.text) },
      presenting chunk.stream seen.passthrough)

def absorbByOffset (search : Searcher) (r : Run) (now : Instant) (chunk : Chunk) :
    Option (Run × List Effect) :=
  (r.newAddressBy? search chunk.text).bind fun
    | none => r.hearByOffset now chunk
    | some address =>
      ((r.succeed address).hearByOffset now chunk).map fun (r', effects) =>
        (r', .log (Message.addressSeen address) :: .closeInput :: effects)

/-- The address that the run comes to: the one that is certain, or the first one of all output. -/
def finalAddressBy? (search : Searcher) (r : Run) : Option (Option Text) :=
  match r.address? with
  | some address => some (some address)
  | none => Address.findBy? search r.output

end Run
end ContractAssist
