import ContractAssist.Proofs.Address
import ContractAssist.Proofs.Run.Transition

/-!
# Absorption — the address of a run

A run looks for the address in each chunk and the few bytes before it, and stops looking once it has
one.  It finds what a search of all output finds, however the output is cut into chunks:

* `Run.Scanned`: the run remembers the end of its output, and knows the address that is delimited in
  all of it;
* `absorb_scanned`: a chunk keeps this up, wherever the output was cut;
* `Run.Closing`: a run goes on exactly until it has heard everything, and then its outcome is that
  of all it has heard;
* `address_after` is both, for all runs.
-/

namespace ContractAssist
namespace Run

variable {r : Run} {now : Instant}

/-! ## What a chunk changes -/

/-- The run as a chunk leaves it before the session observes the chunk. -/
def noted (r : Run) (text : Text) : Run :=
  match r.newAddress? text with
  | none => r
  | some address => r.succeed address

theorem absorb_fst (r : Run) (now : Instant) (chunk : Chunk) :
    (r.absorb now chunk).1 = ((r.noted chunk.text).hear now chunk).1 := by
  unfold absorb noted
  cases r.newAddress? chunk.text <;> rfl

theorem noted_address? (r : Run) (text : Text) :
    (r.noted text).address? = (r.newAddress? text).or r.address? := by
  unfold noted
  cases r.newAddress? text <;> rfl

/-- Apart from the address, the session and the input, a chunk is only heard. -/
theorem noted_eq (r : Run) (text : Text) :
    r.noted text =
      { r with
        session := (r.noted text).session
        address? := (r.noted text).address?
        inputOpen := (r.noted text).inputOpen } := by
  unfold noted
  cases r.newAddress? text <;> rfl

theorem absorb_heard (r : Run) (now : Instant) (chunk : Chunk) :
    (r.absorb now chunk).1.heard = chunk :: r.heard := by
  rw [absorb_fst, noted_eq]
  rfl

theorem absorb_recent (r : Run) (now : Instant) (chunk : Chunk) :
    (r.absorb now chunk).1.recent = ending (r.recent ++ chunk.text) := by
  rw [absorb_fst, noted_eq]
  rfl

theorem absorb_address? (r : Run) (now : Instant) (chunk : Chunk) :
    (r.absorb now chunk).1.address? = (r.newAddress? chunk.text).or r.address? := by
  rw [absorb_fst, ← noted_address?]
  rfl

theorem absorb_session (r : Run) (now : Instant) (chunk : Chunk) :
    (r.absorb now chunk).1.session = ((r.noted chunk.text).session.observe chunk.text now).1 := by
  rw [absorb_fst]
  rfl

theorem absorb_phase (r : Run) (now : Instant) (chunk : Chunk) :
    (r.absorb now chunk).1.phase = r.phase := by
  rw [absorb_fst, noted_eq]
  rfl

theorem absorb_exit? (r : Run) (now : Instant) (chunk : Chunk) :
    (r.absorb now chunk).1.exit? = r.exit? := by
  rw [absorb_fst, noted_eq]
  rfl

theorem absorb_minPasswordLength (r : Run) (now : Instant) (chunk : Chunk) :
    (r.absorb now chunk).1.minPasswordLength = r.minPasswordLength := by
  rw [absorb_fst, noted_eq]
  rfl

theorem absorb_streamsOpen (r : Run) (now : Instant) (chunk : Chunk) :
    (r.absorb now chunk).1.streamsOpen = r.streamsOpen := by
  rw [absorb_fst, noted_eq]
  rfl

theorem absorb_output (r : Run) (now : Instant) (chunk : Chunk) :
    (r.absorb now chunk).1.output = r.output ++ chunk.text := by
  simp [output, absorb_heard, List.flatMap_append]

/-! ## The end of the output -/

/-- The end of a longer text is that of its old end and what was added. -/
theorem ending_append (t u : Text) : ending (ending t ++ u) = ending (t ++ u) := by
  obtain ⟨front, happ, hsize⟩ := Text.exists_dropBytesBefore (Text.byteSize t - lookBack) t
  have happ' : front ++ ending t = t := happ
  have hbytes : Text.byteSize front + Text.byteSize (ending t) = Text.byteSize t := by
    rw [← Text.byteSize_append, happ']
  -- what is cut off before `u` is added would be cut off afterwards
  have hfront : Text.byteSize front ≤ Text.byteSize (t ++ u) - lookBack := by
    rw [Text.byteSize_append]
    omega
  have hleft : Text.byteSize (t ++ u) - lookBack - Text.byteSize front =
      Text.byteSize (ending t ++ u) - lookBack := by
    rw [Text.byteSize_append, Text.byteSize_append]
    omega
  symm
  calc
    ending (t ++ u)
        = Text.dropBytesBefore (Text.byteSize (t ++ u) - lookBack) (front ++ (ending t ++ u)) := by
          rw [← List.append_assoc, happ']
          rfl
    _ = Text.dropBytesBefore (Text.byteSize (t ++ u) - lookBack - Text.byteSize front)
          (ending t ++ u) := Text.dropBytesBefore_append _ hfront
    _ = ending (ending t ++ u) := by
          rw [hleft]
          rfl

/-- The end of a text is all of it, or has room for an address. -/
theorem exists_ending (t : Text) :
    ∃ front, front ++ ending t = t ∧ (front = [] ∨ Address.size ≤ Text.byteSize (ending t)) := by
  obtain ⟨front, happ, hsize⟩ := Text.exists_dropBytesBefore (Text.byteSize t - lookBack) t
  refine ⟨front, happ, ?_⟩
  have hlong := Text.le_byteSize_dropBytesBefore (Text.byteSize t - lookBack) t
  have hroom : Address.size ≤ lookBack := by decide
  by_cases ht : lookBack ≤ Text.byteSize t
  · right
    have hending : ending t = Text.dropBytesBefore (Text.byteSize t - lookBack) t := rfl
    rw [hending]
    omega
  · left
    cases front with
    | nil => rfl
    | cons c front =>
      have hc : 0 < c.utf8Size := Char.utf8Size_pos c
      rw [Text.byteSize_cons] at hsize
      omega

/-! ## The scan -/

/-- The run knows what a search of all its output would find. -/
structure Scanned (r : Run) : Prop where
  recent : r.recent = ending r.output
  address : r.address? = Address.findDelimited? r.output

theorem scanned_new (invocation : Invocation) (options : RunOptions) :
    (new invocation options).Scanned :=
  ⟨rfl, rfl⟩

/-- A chunk and the few bytes before it are enough to search. -/
theorem absorb_scanned (h : r.Scanned) (now : Instant) (chunk : Chunk) :
    (r.absorb now chunk).1.Scanned where
  recent := by rw [absorb_recent, absorb_output, h.recent, ending_append]
  address := by
    rw [absorb_address?, absorb_output]
    cases haddress : r.address? with
    | some address =>
      -- the run looks no further, and rightly so, for the address is final
      have hold : Address.findDelimited? r.output = some address := by rw [← h.address, haddress]
      have hnew : r.newAddress? chunk.text = none := by simp [newAddress?, haddress]
      rw [hnew, Address.findDelimited?_append chunk.text hold]
      rfl
    | none =>
      -- the search of the window stands for the search of all output
      have hold : Address.findDelimited? r.output = none := by rw [← h.address, haddress]
      obtain ⟨front, happ, hroom⟩ := exists_ending r.output
      have hwindow := Address.findDelimited?_window chunk.text (by rw [happ]; exact hold) hroom
      rw [happ] at hwindow
      rw [hwindow, ← h.recent, Option.or_none]
      simp [newAddress?, haddress]

/-- What is remembered of the output does not hang on anything else. -/
theorem Scanned.of_eq {r' : Run} (h : r.Scanned) (hheard : r'.heard = r.heard)
    (hrecent : r'.recent = r.recent) (haddress : r'.address? = r.address?) : r'.Scanned := by
  have houtput : r'.output = r.output := by rw [output, output, hheard]
  exact ⟨by rw [hrecent, houtput, h.recent], by rw [haddress, houtput, h.address]⟩

theorem Scanned.settle (h : r.Scanned) : r.settle.Scanned := by
  rcases settle_cases r with hsame | ⟨-, -, hover⟩
  · rw [hsame]
    exact h
  · rw [hover]
    exact h.of_eq rfl rfl rfl

theorem Scanned.transition (h : r.Scanned) {event : Event} {r' : Run} {effects : List Effect}
    (ht : Transition now r event r' effects) : r'.Scanned := by
  cases ht with
  | absorbed => exact absorb_scanned h now _
  | absorbedLast => exact (absorb_scanned h now _).of_eq rfl rfl rfl
  | _ => exact h.of_eq rfl rfl rfl

theorem scanned_after (invocation : Invocation) (options : RunOptions)
    (events : List (Instant × Event)) : ((new invocation options).after events).Scanned := by
  refine after_induction (scanned_new invocation options) ?_ events
  intro r now event h
  exact step_induction h (fun _ h => h.settle) h.transition

/-! ## The end of a run -/

/-- A run goes on until it has heard everything, and then comes to the outcome of just that. -/
structure Closing (r : Run) : Prop where
  -- nobody is asked anything once the child has ended
  resolving : r.exchange?.isSome = true → r.exit? = none
  -- the outcome of a run that has heard everything is that of all it has heard
  finished : r.heardOut = true → r.phase = .over r.finalOutcome

theorem closing_new (invocation : Invocation) (options : RunOptions) :
    (new invocation options).Closing :=
  ⟨fun h => absurd h Bool.false_ne_true, fun h => absurd h Bool.false_ne_true⟩

theorem heardOut_of_exit? (h : r.exit? = none) : r.heardOut = false := by
  simp [heardOut, h]

/-- A run that is not over has not heard everything. -/
theorem Closing.heardOut_eq_false (h : r.Closing) (hphase : ∀ outcome, r.phase ≠ .over outcome) :
    r.heardOut = false := by
  rw [Bool.eq_false_iff]
  intro hheard
  exact hphase _ (h.finished hheard)

/-- A question is answered only before the end of the child. -/
theorem Closing.exit?_of_resolving (h : r.Closing) {event : Event} {r' : Run}
    {effects : List Effect} (ht : Transition now r event r' effects)
    (hasked : r'.exchange?.isSome = true) : r'.exit? = none := by
  cases ht with
  | absorbed =>
    rw [exchange?, absorb_phase] at hasked
    rw [absorb_exit?]
    exact h.resolving hasked
  | exited hphase hexit =>
    have hlistening : r.exchange? = none := exchange?_of_listening hphase
    rw [show ({ r with exit? := some _ } : Run).exchange? = r.exchange? from rfl,
      hlistening] at hasked
    exact absurd hasked Bool.false_ne_true
  | posed hphase htake hexit hglimpse => exact hexit
  | continued hphase hnext => exact h.resolving (isSome_exchange?_of_resolving hphase)
  | late | closed | known | unready | unasked => exact h.resolving hasked
  | absorbedLast | exitedMeanwhile | skipped | cancelled | replied | withheld | expired =>
    exact absurd hasked Bool.false_ne_true

/-- Only a run that listens can have heard everything without being over yet. -/
theorem Closing.listening_or_not_heardOut (h : r.Closing)
    (hphase : ∀ outcome, r.phase ≠ .over outcome) {event : Event} {r' : Run}
    {effects : List Effect} (ht : Transition now r event r' effects) :
    r'.phase = .listening ∨ r'.heardOut = false := by
  have hheard : r.heardOut = false := h.heardOut_eq_false hphase
  cases ht with
  | absorbed =>
    rw [heardOut, absorb_exit?, absorb_streamsOpen]
    exact .inr hheard
  | closed =>
    -- while a question is answered the child runs, so its end is still to come
    cases hp : r.phase with
    | listening => exact .inl rfl
    | resolving prompt exchange =>
      have hexit : r.exit? = none := h.resolving (isSome_exchange?_of_resolving hp)
      exact .inr (heardOut_of_exit? hexit)
    | «over» outcome => exact absurd hp (hphase outcome)
  | exited hphase' hexit => exact .inl hphase'
  | late | known | unready | posed | unasked | continued | cancelled | expired =>
    exact .inr hheard
  | absorbedLast | exitedMeanwhile | skipped | replied | withheld => exact .inl rfl

theorem Closing.step (h : r.Closing) (now : Instant) (event : Event) :
    (r.step now event).1.Closing := by
  rcases step_cases r now event with ⟨outcome, -, hstep⟩ | ⟨hphase, r', effects, ht, hstep⟩
  · rw [hstep]
    exact h
  · rw [hstep]
    cases hheard : r'.heardOut with
    | false =>
      rw [settle_of_not_heardOut hheard]
      refine ⟨h.exit?_of_resolving ht, ?_⟩
      intro hheard'
      rw [hheard] at hheard'
      exact absurd hheard' Bool.false_ne_true
    | true =>
      rcases h.listening_or_not_heardOut hphase ht with hlistening | hnot
      · rw [settle_of_heardOut hlistening hheard]
        exact ⟨fun hasked => absurd hasked Bool.false_ne_true, fun _ => rfl⟩
      · rw [hnot] at hheard
        exact absurd hheard Bool.false_ne_true

theorem closing_after (invocation : Invocation) (options : RunOptions)
    (events : List (Instant × Event)) : ((new invocation options).after events).Closing :=
  after_induction (closing_new invocation options) (fun _ now event h => h.step now event) events

/-! ## All runs -/

def absorbAll (r : Run) (chunks : List (Instant × Chunk)) : Run :=
  chunks.foldl (fun r c => (r.absorb c.1 c.2).1) r

theorem absorbAll_output (r : Run) (chunks : List (Instant × Chunk)) :
    (r.absorbAll chunks).output = r.output ++ chunks.flatMap fun c => c.2.text := by
  induction chunks generalizing r with
  | nil => simp [absorbAll]
  | cons c rest ih =>
    have hrest := ih (r.absorb c.1 c.2).1
    rw [absorb_output, List.append_assoc] at hrest
    exact hrest

theorem absorbAll_scanned (h : r.Scanned) (chunks : List (Instant × Chunk)) :
    (r.absorbAll chunks).Scanned := by
  induction chunks generalizing r with
  | nil => exact h
  | cons c rest ih => exact ih (absorb_scanned h c.1 c.2)

theorem finalOutcome_address? (h : r.Scanned) :
    r.finalOutcome.address? = Address.find? r.output := by
  have hfinal : r.finalOutcome.address? = r.address?.or (Address.find? r.output) := rfl
  rw [hfinal, h.address, Address.findDelimited?_or_find?]

/--
After any chunks the address of a run is the one that is delimited in all of its output; the same
holds at each point of a run, whatever else happens.  A run that has heard both streams and the
child come to their end is over, and its outcome has the address that a search of all output finds:
it is a success iff there is one.
-/
theorem address_after (invocation : Invocation) (options : RunOptions) :
    (∀ chunks : List (Instant × Chunk),
      let r := (new invocation options).absorbAll chunks
      r.output = (chunks.flatMap fun c => c.2.text) ∧
        r.address? = Address.findDelimited? (chunks.flatMap fun c => c.2.text)) ∧
    ∀ events : List (Instant × Event),
      let r := (new invocation options).after events
      r.address? = Address.findDelimited? r.output ∧
      (r.heardOut = true → ∃ outcome, r.outcome? = some outcome ∧
        outcome.output = r.output ∧
        outcome.address? = Address.find? r.output ∧
        (outcome.success = true ↔ (Address.find? r.output).isSome = true)) := by
  refine ⟨?_, ?_⟩
  · intro chunks r
    have houtput : r.output = chunks.flatMap fun c => c.2.text :=
      absorbAll_output (new invocation options) chunks
    refine ⟨houtput, ?_⟩
    rw [← houtput]
    exact (absorbAll_scanned (scanned_new invocation options) chunks).address
  · intro events r
    have hscanned : r.Scanned := scanned_after invocation options events
    refine ⟨hscanned.address, ?_⟩
    intro hheard
    have hphase : r.phase = .over r.finalOutcome :=
      (closing_after invocation options events).finished hheard
    have haddress := finalOutcome_address? hscanned
    refine ⟨r.finalOutcome, by simp [outcome?, hphase], rfl, haddress, ?_⟩
    rw [← haddress]
    exact Iff.rfl

end Run
end ContractAssist
