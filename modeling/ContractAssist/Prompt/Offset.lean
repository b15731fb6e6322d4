import ContractAssist.Prompt.Session
import ContractAssist.Text.Slice

/-!
# Prompt.Offset — observing output by byte offsets

The tail of a session and the next chunk are joined to one text, and everything about its lines is
said in offsets of this text: where they start and end, and which part of the chunk is not shown.
Every cut of the text may fail, so each function here may.

* `Text.Span` is a line by its offsets, `Text.spans` gives all lines of a text;
* `Session.readSpans` reads the lines and collects what is hidden;
* `Session.passthrough?` is the chunk without what is hidden;
* `Session.clipTail?` shortens the last line;
* `Session.observeByOffset` puts these together.
-/

namespace ContractAssist

/-! ## Lines -/

namespace Text

/-- A line of a text: where it starts, where its characters end, and where the next line starts. -/
structure Span where
  -- the offset of its first character
  start : Nat
  -- the offset of the break that ends it
  stop : Nat
  next : Nat
  deriving DecidableEq, Repr, Inhabited

/-- The lines of a text whose first character is at `index`, in a line that starts at `start`. -/
def spansFrom (start index : Nat) : Text → List Span
  | [] => [⟨start, index, index⟩]
  | c :: r =>
    if isLineBreak c then ⟨start, index, index + 1⟩ :: spansFrom (index + 1) (index + c.utf8Size) r
    else spansFrom start (index + c.utf8Size) r

/-- The lines of a text. The last one is not ended by a break, and may be empty. -/
def spans (t : Text) : List Span :=
  spansFrom 0 0 t

end Text

namespace Session

/-! ## Reading lines -/

abbrev Hidden := Nat × Nat

/-- What a line takes up is hidden if it asks, and if it takes up anything. -/
def hide (asked : Bool) (start stop : Nat) (later : List Hidden) : List Hidden :=
  if asked && decide (start < stop) then (start, stop) :: later else later

/--
Reads the lines of a text, the first of which has this `index`: the session afterwards, whether
there was a question, and what of the chunk, which starts at `chunkStart`, is to be hidden.
-/
def readSpans (s : Session) (now : Instant) (text : Text) (chunkStart : Nat) (carriedSignal : Bool)
    (index : Nat) : List Text.Span → Option (Session × Bool × List Hidden)
  | [] => some (s, false, [])
  | line :: r =>
    (Text.slice? line.start line.stop text).bind fun segment =>
      -- only the first line goes on from an earlier chunk
      match s.readLine now (!(index == 0 && carriedSignal)) segment with
      | (s', asked) =>
        (s'.readSpans now text chunkStart carriedSignal (index + 1) r).map
          fun (s'', prompt, hidden) =>
            (s'', asked || prompt, hide asked (max line.start chunkStart) line.next hidden)

/-- The text from `cursor` on without what is hidden. -/
def passthrough? (text : Text) (cursor : Nat) : List Hidden → Option Text
  | [] => Text.fromByte? cursor text
  | (start, stop) :: r =>
    if cursor < start then
      (Text.slice? cursor start text).bind fun kept =>
        (passthrough? text (max cursor stop) r).map fun later => kept ++ later
    else passthrough? text (max cursor stop) r

/-- The last bytes of a line, from the boundary of a character on. -/
def clipTail? (line : Text) : Option Text :=
  if Text.byteSize line ≤ tailLimit then some line
  else
    (Text.boundaryFrom? line (tailLimit + 1) (Text.byteSize line - tailLimit)).bind fun start =>
      Text.fromByte? start line

/-- Reads a chunk of output behind the unterminated line of earlier chunks. -/
def observeByOffset (s : Session) (chunk : Text) (now : Instant) : Option (Session × Observation) :=
  if s.isDone then some (s, ⟨false, chunk⟩)
  else
    let text := s.tail ++ chunk
    let chunkStart := Text.byteSize s.tail
    let lines := Text.spans text
    let partialStart := (lines.getLast?.map Text.Span.start).getD 0
    -- the tail is part of the text by now, and is cut anew from its last line
    (readSpans { s with tail := [] } now text chunkStart s.carriesSignal 0 lines).bind
      fun (s', prompt, hidden) =>
        ((Text.fromByte? partialStart text).bind clipTail?).bind fun tail =>
          (passthrough? text chunkStart hidden).map fun shown =>
            ({ s' with tail := tail }, ⟨prompt, shown⟩)

end Session
end ContractAssist
