import ContractAssist.Proofs.Prompt.Operation
import ContractAssist.Proofs.Run.Absorption
import ContractAssist.Proofs.Stream.Reader

/-!
# Delivery — what a run does with its output

Every chunk that a run takes in is kept, given to the session, and shown unless it is a question.

1. `Run.taken` are the chunks that a run takes in, and by `after_heard` it keeps just these;
2. `exists_operations`: in a whole run the session is given each of them once, and what it lets
   through is shown once, as output of the stream it came from;
3. `Run.Concluded`: whatever ends a run, its outcome has all output so far, and only a run that has
   heard everything is a success.
-/

namespace ContractAssist

/-! ## What a session is given -/

namespace Session

def Operation.chunk? : Operation → Option (Instant × Text)
  | .observe chunk now => some (now, chunk)
  | _ => none

/-- What the session lets through of each chunk that it is given. -/
def passed (s : Session) : List Operation → List Text
  | [] => []
  | .observe chunk now :: later =>
    (s.observe chunk now).2.passthrough :: (s.observe chunk now).1.passed later
  | .takeReady now :: later => (s.takeReady now).1.passed later
  | .finishResolution now :: later => (s.finishResolution now).passed later
  | .markDone :: later => s.markDone.passed later

theorem passed_append (s : Session) (before later : List Operation) :
    s.passed (before ++ later) = s.passed before ++ (s.after before).passed later := by
  induction before generalizing s with
  | nil => rfl
  | cons op before ih =>
    cases op with
    | observe chunk now => exact congrArg _ (ih _)
    | takeReady now => exact ih _
    | finishResolution now => exact ih _
    | markDone => exact ih _

theorem length_passed (s : Session) (operations : List Operation) :
    (s.passed operations).length = (operations.filterMap Operation.chunk?).length := by
  induction operations generalizing s with
  | nil => rfl
  | cons op later ih =>
    cases op with
    | observe chunk now => exact congrArg (· + 1) (ih _)
    | takeReady now => exact ih _
    | finishResolution now => exact ih _
    | markDone => exact ih _

end Session

namespace Run

variable {r : Run} {now : Instant}

/-! ## What a run takes in -/

/-- The chunk that a run takes in with an event, if it still listens to its streams. -/
def takes (r : Run) (now : Instant) : Event → List (Instant × Chunk)
  | .chunk chunk => if r.outcome?.isNone && r.streamsOpen then [(now, chunk)] else []
  | _ => []

def taken (r : Run) : List (Instant × Event) → List (Instant × Chunk)
  | [] => []
  | e :: later => r.takes e.1 e.2 ++ (r.step e.1 e.2).1.taken later

theorem outcome?_eq_none (hphase : ∀ outcome, r.phase ≠ .over outcome) : r.outcome? = none := by
  cases h : r.phase with
  | «over» outcome => exact absurd h (hphase outcome)
  | _ => simp [outcome?, h]

theorem outcome?_of_over {outcome : Outcome} (h : r.phase = .over outcome) :
    r.outcome? = some outcome := by
  simp [outcome?, h]

theorem takes_of_over {outcome : Outcome} (h : r.phase = .over outcome) (event : Event) :
    r.takes now event = [] := by
  cases event <;> simp [takes, outcome?_of_over h]

theorem takes_of_open (hphase : ∀ outcome, r.phase ≠ .over outcome) (hopen : r.streamsOpen = true)
    (chunk : Chunk) : r.takes now (.chunk chunk) = [(now, chunk)] := by
  simp [takes, outcome?_eq_none hphase, hopen]

theorem takes_of_closed (hclosed : r.streamsOpen = false) (chunk : Chunk) :
    r.takes now (.chunk chunk) = [] := by
  simp [takes, hclosed]

theorem settle_heard (r : Run) : r.settle.heard = r.heard := by
  rcases settle_cases r with hsame | ⟨-, -, hover⟩
  · rw [hsame]
  · rw [hover]
    rfl

theorem Transition.heard (hphase : ∀ outcome, r.phase ≠ .over outcome) {event : Event} {r' : Run}
    {effects : List Effect} (ht : Transition now r event r' effects) :
    r'.heard = (r.takes now event).map Prod.snd ++ r.heard := by
  cases ht with
  | late hclosed =>
    rw [takes_of_closed hclosed]
    rfl
  | absorbed hopen =>
    rw [takes_of_open hphase hopen]
    exact absorb_heard r now _
  | absorbedLast hopen =>
    rw [takes_of_open hphase hopen]
    exact absorb_heard r now _
  | _ => rfl

theorem step_heard (r : Run) (now : Instant) (event : Event) :
    (r.step now event).1.heard = (r.takes now event).map Prod.snd ++ r.heard := by
  rcases step_cases r now event with ⟨outcome, hover, hstep⟩ | ⟨hphase, r', effects, ht, hstep⟩
  · rw [hstep, takes_of_over hover]
    rfl
  · rw [hstep, settle_heard]
    exact ht.heard hphase

/-- An event brings one chunk at most. -/
theorem reverse_takes (r : Run) (now : Instant) (event : Event) :
    (r.takes now event).reverse = r.takes now event := by
  cases event with
  | chunk chunk =>
    simp only [takes]
    split <;> rfl
  | _ => rfl

theorem after_heard (r : Run) (events : List (Instant × Event)) :
    (r.after events).heard.reverse = r.heard.reverse ++ (r.taken events).map Prod.snd := by
  induction events generalizing r with
  | nil => exact (List.append_nil _).symm
  | cons e later ih =>
    calc
      ((r.step e.1 e.2).1.after later).heard.reverse
          = (r.step e.1 e.2).1.heard.reverse ++
              ((r.step e.1 e.2).1.taken later).map Prod.snd := ih _
      _ = r.heard.reverse ++ (r.taken (e :: later)).map Prod.snd := by
          rw [step_heard, List.reverse_append, ← List.map_reverse, reverse_takes, taken,
            List.map_append, List.append_assoc]

/-! ## What the session makes of it -/

def Effect.shown? : Effect → Option Chunk
  | present chunk => some chunk
  | _ => none

/-- What is to be shown of some chunks of which just `texts` is let through. -/
def onShow (chunks : List Chunk) (texts : List Text) : List Chunk :=
  (List.zipWith (fun chunk text => Chunk.mk chunk.stream text) chunks texts).filter
    fun chunk => !chunk.text.isEmpty

theorem onShow_append {chunks : List Chunk} {texts : List Text}
    (h : chunks.length = texts.length) (laterChunks : List Chunk) (laterTexts : List Text) :
    onShow (chunks ++ laterChunks) (texts ++ laterTexts) =
      onShow chunks texts ++ onShow laterChunks laterTexts := by
  rw [onShow, List.zipWith_append h, List.filter_append]
  rfl

theorem filterMap_shown?_presenting (stream : StreamKind) (text : Text) (chunk : Chunk)
    (h : chunk.stream = stream) :
    (presenting stream text).filterMap Effect.shown? = onShow [chunk] [text] := by
  subst h
  cases htext : text.isEmpty with
  | true => simp [presenting, onShow, htext]
  | false => simp [presenting, onShow, htext, Effect.shown?]

def Unseen (effects : List Effect) : Prop :=
  effects.filterMap Effect.shown? = []

theorem Unseen.append {before later : List Effect} (hbefore : Unseen before)
    (hlater : Unseen later) : Unseen (before ++ later) := by
  rw [Unseen, List.filterMap_append, hbefore, hlater]
  rfl

theorem unseen_recordExit (r : Run) (exit : Exit) : Unseen (r.recordExit exit).2 := by
  cases exit <;> rfl

theorem unseen_look (r : Run) (glimpse : Glimpse) : Unseen (r.look glimpse).2.1 := by
  unfold look
  split
  · rfl
  · rfl
  · exact unseen_recordExit r _

theorem unseen_inquire (r : Run) (prompt : Prompt) (exchange : Resolution) :
    Unseen (r.inquire prompt exchange).2 := by
  unfold inquire
  cases exchange.question? <;> rfl

theorem unseen_handOut (r : Run) (now : Instant) (glimpse : Glimpse) :
    Unseen (r.handOut now glimpse).2 := by
  unfold handOut
  split
  · rfl
  · next session prompt _ =>
    have hlook := unseen_look { r with session := session } glimpse
    unfold pose
    split
    · next r' effects heq =>
      rw [heq] at hlook
      exact hlook.append (unseen_inquire r' prompt _)
    · next r' effects heq =>
      rw [heq] at hlook
      exact hlook

theorem unseen_writing (r : Run) (line : Text) (glimpse : Glimpse) :
    Unseen (r.writing line glimpse) := by
  unfold writing
  split
  · cases glimpse.refusal? <;> rfl
  · rfl

theorem unseen_reply (r : Run) (now : Instant) (line : Text) (glimpse : Glimpse) :
    Unseen (r.reply now line glimpse).2 := by
  have hlook := unseen_look r glimpse
  unfold reply
  split
  next r' effects alive heq =>
  rw [heq] at hlook
  refine hlook.append ?_
  split
  · exact unseen_writing r' line glimpse
  · rfl

theorem unseen_takeAnswer (r : Run) (now : Instant) (prompt : Prompt) (exchange : Resolution)
    (answer : Answer) (glimpse : Glimpse) :
    Unseen (r.takeAnswer now prompt exchange answer glimpse).2 := by
  unfold takeAnswer
  split
  · exact unseen_reply r now _ glimpse
  · next exhausted _ => cases exhausted <;> rfl
  · exact unseen_inquire r prompt _

/-- Only output is shown. -/
theorem unseen_step (r : Run) (now : Instant) {event : Event}
    (h : ∀ chunk, event ≠ .chunk chunk) : Unseen (r.step now event).2 := by
  unfold step
  cases hphase : r.phase with
  | «over» outcome => rfl
  | listening =>
    cases event with
    | chunk chunk => exact absurd rfl (h chunk)
    | streamsClosed => rfl
    | exited exit =>
      simp only [stepListening]
      split
      · rfl
      · exact unseen_recordExit r exit
    | settled glimpse => exact unseen_handOut r now glimpse
    | answered answer glimpse => rfl
    | expired => rfl
  | resolving prompt exchange =>
    cases event with
    | chunk chunk => exact absurd rfl (h chunk)
    | streamsClosed => rfl
    | exited exit =>
      simp only [stepResolving]
      split
      · rfl
      · exact unseen_recordExit r exit
    | settled glimpse => rfl
    | answered answer glimpse => exact unseen_takeAnswer r now prompt exchange answer glimpse
    | expired => rfl

/-- What a step makes of the session: some operations, with what they let through shown. -/
structure Handled (r : Run) (now : Instant) (event : Event) (operations : List Session.Operation) :
    Prop where
  -- the session is the one that the operations leave
  session : (r.step now event).1.session = r.session.after operations
  -- they give it the chunk that the run takes in, and no other
  chunks : operations.filterMap Session.Operation.chunk? =
    (r.takes now event).map fun taken => (taken.1, taken.2.text)
  -- what they let through is shown, unless it is empty
  shown : (r.step now event).2.filterMap Effect.shown? =
    onShow ((r.takes now event).map Prod.snd) (r.session.passed operations)

theorem settle_session (r : Run) : r.settle.session = r.session := by
  rcases settle_cases r with hsame | ⟨-, -, hover⟩
  · rw [hsame]
  · rw [hover]
    rfl

theorem absorb_shown (r : Run) (now : Instant) (chunk : Chunk) :
    (r.absorb now chunk).2.filterMap Effect.shown? =
      onShow [chunk] [((r.noted chunk.text).session.observe chunk.text now).2.passthrough] := by
  have hpresenting := filterMap_shown?_presenting chunk.stream
    ((r.noted chunk.text).session.observe chunk.text now).2.passthrough chunk rfl
  rw [← hpresenting]
  unfold absorb noted
  cases r.newAddress? chunk.text <;> rfl

/-- What a chunk does to the session before the session observes it. -/
def notingOperations (r : Run) (text : Text) : List Session.Operation :=
  match r.newAddress? text with
  | none => []
  | some _ => [.markDone]

theorem after_notingOperations (r : Run) (text : Text) :
    r.session.after (r.notingOperations text) = (r.noted text).session := by
  unfold notingOperations noted
  cases r.newAddress? text <;> rfl

theorem passed_notingOperations (r : Run) (text : Text) :
    r.session.passed (r.notingOperations text) = [] := by
  unfold notingOperations
  cases r.newAddress? text <;> rfl

theorem chunk?_notingOperations (r : Run) (text : Text) :
    (r.notingOperations text).filterMap Session.Operation.chunk? = [] := by
  unfold notingOperations
  cases r.newAddress? text <;> rfl

/-- A run that takes in a chunk gives it to the session once, and shows what comes back. -/
theorem handled_absorbed (hphase : ∀ outcome, r.phase ≠ .over outcome)
    (hopen : r.streamsOpen = true) {chunk : Chunk} {r' : Run} (later : List Session.Operation)
    (hstep : r.step now (.chunk chunk) = (r', (r.absorb now chunk).2))
    (hsession : r'.session = (r.absorb now chunk).1.session.after later)
    (hlater : ∀ s : Session, s.passed later = [])
    (hchunks : later.filterMap Session.Operation.chunk? = []) :
    r.Handled now (.chunk chunk) (r.notingOperations chunk.text ++ .observe chunk.text now :: later)
    where
  session := by
    rw [hstep, hsession, absorb_session, Session.after_append, after_notingOperations]
    rfl
  chunks := by
    rw [takes_of_open hphase hopen, List.filterMap_append, chunk?_notingOperations,
      List.filterMap_cons, hchunks]
    rfl
  shown := by
    rw [hstep, takes_of_open hphase hopen, absorb_shown, Session.passed_append,
      passed_notingOperations, after_notingOperations, Session.passed, hlater]
    rfl

/-- An event that brings no chunk changes the session in silence. -/
theorem handled_unseen {event : Event} {operations : List Session.Operation}
    (hsession : (r.step now event).1.session = r.session.after operations)
    (htakes : r.takes now event = []) (hunseen : Unseen (r.step now event).2)
    (hpassed : r.session.passed operations = [])
    (hchunks : operations.filterMap Session.Operation.chunk? = []) :
    r.Handled now event operations where
  session := hsession
  chunks := by
    rw [htakes, hchunks]
    rfl
  shown := by
    rw [htakes, hpassed]
    exact hunseen

theorem exists_handled (r : Run) (now : Instant) (event : Event) :
    ∃ operations, r.Handled now event operations := by
  rcases step_cases r now event with ⟨outcome, hover, hstep⟩ | ⟨hphase, r', effects, ht, hstep⟩
  · refine ⟨[], handled_unseen ?_ (takes_of_over hover event) ?_ rfl rfl⟩
    · rw [hstep]
      rfl
    · rw [hstep]
      rfl
  · have hsettled : (r.step now event).1.session = r'.session := by rw [hstep, settle_session]
    -- the transitions are grouped by what the run asks of its session
    cases ht with
    | late hclosed =>
      refine ⟨[], handled_unseen hsettled (takes_of_closed hclosed _) ?_ rfl rfl⟩
      rw [hstep]
      rfl
    | @absorbed chunk hopen =>
      exact ⟨_, handled_absorbed hphase hopen [] hstep (settle_session _) (fun _ => rfl) rfl⟩
    | @absorbedLast chunk hopen =>
      exact ⟨_, handled_absorbed hphase hopen [.finishResolution now] hstep
        (settle_session _) (fun _ => rfl) rfl⟩
    | exitedMeanwhile | replied | withheld =>
      exact ⟨[.finishResolution now], handled_unseen hsettled rfl
        (unseen_step r now (fun _ => by simp)) rfl rfl⟩
    | posed _ htake =>
      refine ⟨[.takeReady now],
        handled_unseen ?_ rfl (unseen_step r now (fun _ => by simp)) rfl rfl⟩
      rw [hsettled]
      exact (congrArg Prod.fst htake).symm
    | skipped _ htake =>
      refine ⟨[.takeReady now, .finishResolution now],
        handled_unseen ?_ rfl (unseen_step r now (fun _ => by simp)) rfl rfl⟩
      rw [hsettled]
      exact congrArg (Session.finishResolution · now) (congrArg Prod.fst htake).symm
    | closed | known | exited | unready | unasked | continued | cancelled | expired =>
      exact ⟨[], handled_unseen hsettled rfl (unseen_step r now (fun _ => by simp)) rfl rfl⟩

/-- In a whole run the session is given each chunk once, and what it lets through is shown once. -/
theorem exists_operations (r : Run) (events : List (Instant × Event)) :
    ∃ operations : List Session.Operation,
      (r.after events).session = r.session.after operations ∧
      operations.filterMap Session.Operation.chunk? =
        ((r.taken events).map fun taken => (taken.1, taken.2.text)) ∧
      (r.effects events).filterMap Effect.shown? =
        onShow ((r.taken events).map Prod.snd) (r.session.passed operations) := by
  induction events generalizing r with
  | nil => exact ⟨[], rfl, rfl, rfl⟩
  | cons e later ih =>
    obtain ⟨first, hfirst⟩ := exists_handled r e.1 e.2
    obtain ⟨rest, hsession, hchunks, hshown⟩ := ih (r.step e.1 e.2).1
    have hlength : ((r.takes e.1 e.2).map Prod.snd).length = (r.session.passed first).length := by
      rw [Session.length_passed, hfirst.chunks, List.length_map, List.length_map]
    refine ⟨first ++ rest, ?_, ?_, ?_⟩
    · rw [after_cons, hsession, hfirst.session, Session.after_append]
    · rw [List.filterMap_append, hfirst.chunks, hchunks, taken, List.map_append]
    · rw [effects, List.filterMap_append, hfirst.shown, hshown, taken, List.map_append,
        Session.passed_append, onShow_append hlength, hfirst.session]

/-! ## The outcome of a run -/

/-- What a run that is over has come to: it has heard everything, or it was broken off. -/
def Concluded (r : Run) : Prop :=
  ∀ outcome, r.phase = .over outcome →
    (r.heardOut = true ∧ outcome = r.finalOutcome) ∨
    (r.heardOut = false ∧
      (outcome = .failure r.output (RunError.timedOut r.invocation.timeout).message ∨
        outcome = .failure r.output RunError.cancelled.message))

theorem concluded_of_phase (h : ∀ outcome, r.phase ≠ .over outcome) : r.Concluded :=
  fun outcome hover => absurd hover (h outcome)

/-- Only a dismissal and the end of the time break a run off. -/
theorem Transition.concluded (hphase : ∀ outcome, r.phase ≠ .over outcome)
    (hheard : r.heardOut = false) {event : Event} {r' : Run} {effects : List Effect}
    (ht : Transition now r event r' effects) : r'.Concluded := by
  cases ht with
  | late | closed | known | exited | unready | unasked => exact concluded_of_phase hphase
  | absorbed =>
    refine concluded_of_phase fun outcome hover => hphase outcome ?_
    rw [← hover, absorb_phase]
  | absorbedLast | exitedMeanwhile | skipped | replied | withheld =>
    exact concluded_of_phase fun outcome hover => Phase.noConfusion hover
  | posed | continued => exact concluded_of_phase fun outcome hover => Phase.noConfusion hover
  | cancelled =>
    intro outcome hover
    exact .inr ⟨hheard, .inr (Phase.over.inj hover).symm⟩
  | expired =>
    intro outcome hover
    exact .inr ⟨hheard, .inl (Phase.over.inj hover).symm⟩

theorem Concluded.settle (h : r.Concluded) : r.settle.Concluded := by
  rcases settle_cases r with hsame | ⟨-, hheard, hover⟩
  · rw [hsame]
    exact h
  · rw [hover]
    intro outcome houtcome
    exact .inl ⟨hheard, (Phase.over.inj houtcome).symm⟩

theorem Concluded.step (h : r.Concluded) (hclosing : r.Closing) (now : Instant) (event : Event) :
    (r.step now event).1.Concluded := by
  rcases step_cases r now event with ⟨outcome, -, hstep⟩ | ⟨hphase, r', effects, ht, hstep⟩
  · rw [hstep]
    exact h
  · rw [hstep]
    exact (ht.concluded hphase (hclosing.heardOut_eq_false hphase)).settle

theorem concluded_after (invocation : Invocation) (options : RunOptions)
    (events : List (Instant × Event)) : ((new invocation options).after events).Concluded := by
  have hstart : (new invocation options).Closing ∧ (new invocation options).Concluded :=
    ⟨closing_new invocation options, concluded_of_phase fun outcome => Phase.noConfusion⟩
  refine (after_induction (P := fun r => r.Closing ∧ r.Concluded) hstart ?_ events).2
  intro r now event ⟨hclosing, hconcluded⟩
  exact ⟨hclosing.step now event, hconcluded.step hclosing now event⟩

end Run
end ContractAssist
