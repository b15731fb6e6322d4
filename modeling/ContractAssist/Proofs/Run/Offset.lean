import ContractAssist.Proofs.Address.Search
import ContractAssist.Proofs.Prompt.Offset
import ContractAssist.Proofs.Run.Delivery
import ContractAssist.Run.Offset

/-!
# Run.Offset — no cut of the output fails

All offsets at which output is cut come from the sizes of texts.  In a run they always fall between
two characters, so that a run that cuts by offsets goes on as one that keeps what it needs.

1. `fromByte?_floorBoundary`: output is searched again from the end that is remembered on;
2. `newAddressBy?_eq`, `hearByOffset_eq` and `absorbByOffset_eq`: a chunk is taken note of in the
   same way;
3. `cuts_after` says this of every run, and which cuts fail at all.
-/

namespace ContractAssist
namespace Run

open Text (Pattern Searcher byteSize fromByte? floorBoundary isBoundary slice?)

variable {search : Searcher} {r : Run}

/-- From the last place for a cut on, there is the remembered end of the output. -/
theorem fromByte?_floorBoundary (t u : Text) :
    fromByte? (floorBoundary t (byteSize t - lookBack)) (t ++ u) = some (ending t ++ u) := by
  obtain ⟨front, happ, hfloor⟩ := Text.exists_floorBoundary (byteSize t - lookBack) t
  have htext : t ++ u = front ++ (ending t ++ u) := by
    rw [← List.append_assoc]
    exact congrArg (· ++ u) happ
  rw [hfloor, htext, Text.fromByte?_append]

theorem newAddressBy?_eq (hsearch : search.LeftmostFor Address.pattern)
    (hrecent : r.recent = ending r.output) (text : Text) :
    r.newAddressBy? search text = some (r.newAddress? text) := by
  unfold newAddressBy? newAddress?
  cases r.address? with
  | some address => rfl
  | none =>
    simp only [fromByte?_floorBoundary, Option.bind_some, Address.findDelimitedBy?_eq hsearch,
      hrecent]

theorem hearByOffset_eq (htail : Text.LineBreakFree r.session.tail) (now : Instant)
    (chunk : Chunk) : r.hearByOffset now chunk = some (r.hear now chunk) := by
  unfold hearByOffset hear
  rw [Session.observeByOffset_eq htail]
  rfl

/-- Every cut of the output and of a chunk succeeds, and what comes out is the same. -/
theorem absorbByOffset_eq (hsearch : search.LeftmostFor Address.pattern)
    (hrecent : r.recent = ending r.output) (htail : r.session.TidyTail) (now : Instant)
    (chunk : Chunk) : r.absorbByOffset search now chunk = some (r.absorb now chunk) := by
  unfold absorbByOffset absorb
  rw [newAddressBy?_eq hsearch hrecent, Option.bind_some]
  cases r.newAddress? chunk.text with
  | none => exact hearByOffset_eq htail.unbroken now chunk
  | some address =>
    -- the session is told that all is done, and has no tail to cut then
    have hdone : (r.succeed address).session.TidyTail := htail.perform .markDone
    simp only [hearByOffset_eq hdone.unbroken, Option.map_some]

theorem finalAddressBy?_eq (hsearch : search.LeftmostFor Address.pattern) (r : Run) :
    r.finalAddressBy? search = some (r.address?.or (Address.find? r.output)) := by
  unfold finalAddressBy?
  cases r.address? with
  | some address => rfl
  | none => exact Address.findBy?_eq hsearch r.output

theorem tidyTail_session_after (invocation : Invocation) (options : RunOptions)
    (events : List (Instant × Event)) :
    ((new invocation options).after events).session.TidyTail := by
  obtain ⟨operations, hsession, -, -⟩ := exists_operations (new invocation options) events
  rw [hsession]
  exact Session.tidyTail_after options.debounce operations

/--
A cut fails only if its offsets are not in order, are outside of the text or inside of a character.
No cut fails in a search for an address, in a session after any operations, or in a run after any
events; each of them comes to what is known of it.
-/
theorem cuts_after (search : Searcher) (hsearch : search.LeftmostFor Address.pattern) :
    (∀ (start stop : Nat) (t : Text), (slice? start stop t).isSome = true ↔
      start ≤ stop ∧ stop ≤ byteSize t ∧ isBoundary start t = true ∧ isBoundary stop t = true) ∧
    (∀ (start : Nat) (t : Text), (fromByte? start t).isSome = true ↔
      start ≤ byteSize t ∧ isBoundary start t = true) ∧
    (∀ (offset : Nat) (t : Text), isBoundary offset t = true ↔
      ∃ front behind, t = front ++ behind ∧ offset = byteSize front) ∧
    (∀ t, Address.findBy? search t = some (Address.find? t) ∧
      Address.findDelimitedBy? search t = some (Address.findDelimited? t)) ∧
    (∀ (debounce : Duration) (operations : List Session.Operation) (chunk : Text) (now : Instant),
      ((Session.new debounce).after operations).observeByOffset chunk now =
        some (((Session.new debounce).after operations).observe chunk now)) ∧
    ∀ (invocation : Invocation) (options : RunOptions) (events : List (Instant × Event))
      (now : Instant) (chunk : Chunk),
      ((new invocation options).after events).absorbByOffset search now chunk =
          some (((new invocation options).after events).absorb now chunk) ∧
        ((new invocation options).after events).finalAddressBy? search =
          some ((new invocation options).after events).finalOutcome.address? := by
  refine ⟨fun _ _ _ => Text.slice?_isSome_iff, fun _ _ => Text.fromByte?_isSome_iff,
    fun _ _ => Text.isBoundary_iff, ?_, ?_, ?_⟩
  · exact fun t => ⟨Address.findBy?_eq hsearch t, Address.findDelimitedBy?_eq hsearch t⟩
  · intro debounce operations chunk now
    exact Session.observeByOffset_eq (Session.tidyTail_after debounce operations).unbroken chunk now
  · intro invocation options events now chunk
    have hscanned := scanned_after invocation options events
    have htail := tidyTail_session_after invocation options events
    exact ⟨absorbByOffset_eq hsearch hscanned.recent htail now chunk, finalAddressBy?_eq hsearch _⟩

/-- A cut inside of a character fails; a long line of characters of three bytes is cut elsewhere. -/
theorem cuts_after_wide :
    Searcher.LeftmostFor Pattern.search Address.pattern ∧
    (slice? 0 1 ("€" : Text)).isSome = false ∧
    (((Session.new ⟨0⟩).after [.observe (List.replicate 2000 '€') ⟨0⟩]).observeByOffset
      "€" ⟨0⟩).isSome = true ∧
    (((new default ⟨⟨0⟩, 8⟩).after [(⟨0⟩, .chunk ⟨.output, List.replicate 30 '€'⟩)]).absorbByOffset
      Pattern.search ⟨0⟩ ⟨.output, "€"⟩).isSome = true := by
  have hsearch := Pattern.leftmostFor_search Address.pattern
  obtain ⟨hslice, -, -, -, hobserve, habsorb⟩ := cuts_after Pattern.search hsearch
  refine ⟨hsearch, ?_, ?_, ?_⟩
  · rw [Bool.eq_false_iff, ne_eq, hslice]
    decide
  · rw [hobserve]
    rfl
  · rw [(habsorb _ _ _ _ _).1]
    rfl

end Run
end ContractAssist
