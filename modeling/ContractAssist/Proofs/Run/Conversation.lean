import ContractAssist.Proofs.Prompt.Invariant
import ContractAssist.Proofs.Run.Absorption

/-!
# Conversation — one question at a time, one reply at most

What passes between a run, whoever answers, and the input of the child is a sequence of signs.  A
`Conversation` says which sequences are in order: exchanges follow one another, each is about one
prompt, and the reply of an exchange ends it.

1. `Conversation` is a relation on signs alone; its state is the exchange under way, if any;
2. `Run.Guarded` ties the phase of a run to its session, to the address and to the end of the child;
3. `conversation_after` says that the signs of every run are in order, and that they cease once an
   address is certain or the end of the child is known.
-/

namespace ContractAssist

/-! ## Conversations -/

/-- What passes between a run, whoever answers, and the input of the child. -/
inductive Sign where
  | asked (question : Question)
  | answered (answer : Answer)
  | wrote (line : Text)
  deriving DecidableEq, Repr

/--
Signs that are in order, from one exchange under way (or none) to another.  There is never more than
one; a question is put only to open an exchange or to go on with it; and a line is written only to
end an exchange, as the reply that this exchange has come to.
-/
inductive Conversation (minLength : Nat) :
    Option (Prompt × Resolution) → List Sign → Option (Prompt × Resolution) → Prop where
  | silent (state) : Conversation minLength state [] state
  -- nobody is asked anything, so an exchange about a prompt may be opened
  | opens {prompt question} (h : (Resolution.start prompt).question? = some question) :
      Conversation minLength none [.asked question] (some (prompt, Resolution.start prompt))
  -- an answer leads to the next question
  | continues {prompt exchange answer question}
      (h : (exchange.take minLength answer).question? = some question) :
      Conversation minLength (some (prompt, exchange)) [.answered answer, .asked question]
        (some (prompt, exchange.take minLength answer))
  -- an answer leads to the reply, which ends the exchange
  | replies {prompt exchange answer line exhausted}
      (h : exchange.take minLength answer = .settled (.reply line) exhausted) :
      Conversation minLength (some (prompt, exchange)) [.answered answer, .wrote line] none
  -- an answer ends the exchange without a reply
  | withholds {prompt exchange answer}
      (h : (exchange.take minLength answer).question? = none) :
      Conversation minLength (some (prompt, exchange)) [.answered answer] none
  | abandons (prompt exchange) : Conversation minLength (some (prompt, exchange)) [] none
  | andThen {first second third signs later} (h : Conversation minLength first signs second)
      (hlater : Conversation minLength second later third) :
      Conversation minLength first (signs ++ later) third

namespace Run

def Effect.sign? : Effect → Option Sign
  | ask question => some (.asked question)
  | write line => some (.wrote line)
  | _ => none

/-- The answer that a run takes from an event; it takes none unless a question is open. -/
def heeded (r : Run) : Event → List Sign
  | .answered answer _ => if r.exchange?.isSome then [.answered answer] else []
  | _ => []

def signs (r : Run) (now : Instant) (event : Event) : List Sign :=
  r.heeded event ++ (r.step now event).2.filterMap Effect.sign?

def talk (r : Run) : List (Instant × Event) → List Sign
  | [] => []
  | e :: later => r.signs e.1 e.2 ++ (r.step e.1 e.2).1.talk later

variable {r : Run} {now : Instant}

theorem filterMap_sign?_of_quiet {effects : List Effect} (h : Quiet effects) :
    effects.filterMap Effect.sign? = [] := by
  rw [List.filterMap_eq_nil_iff]
  intro effect heffect
  have hquiet := h effect heffect
  cases effect with
  | ask question => exact absurd hquiet Bool.false_ne_true
  | write line => exact absurd hquiet Bool.false_ne_true
  | _ => rfl

theorem exists_question?_start (prompt : Prompt) :
    ∃ question, (Resolution.start prompt).question? = some question := by
  cases hkind : prompt.kind with
  | keypair => exact ⟨_, by simp only [Resolution.start, hkind]; rfl⟩
  | password context => exact ⟨_, by simp only [Resolution.start, hkind]; rfl⟩

theorem Transition.conversation {event : Event} {r' : Run} {effects : List Effect}
    (ht : Transition now r event r' effects) :
    Conversation r.minPasswordLength r.exchange?
      (r.heeded event ++ effects.filterMap Effect.sign?) r'.exchange? := by
  -- whatever ends an exchange without a word, or finds none to end
  have hquits : Conversation r.minPasswordLength r.exchange? [] none := by
    rcases hasked : r.exchange? with _ | ⟨prompt, exchange⟩
    · exact .silent none
    · exact .abandons prompt exchange
  cases ht with
  | late | closed | known | unready => exact .silent _
  | @absorbed chunk =>
    rw [filterMap_sign?_of_quiet (quiet_absorb r now chunk)]
    have hsame : (r.absorb now chunk).1.exchange? = r.exchange? := by
      rw [exchange?, absorb_phase, exchange?]
    rw [hsame]
    exact .silent _
  | @absorbedLast chunk =>
    rw [filterMap_sign?_of_quiet (quiet_absorb r now chunk)]
    exact hquits
  | @exited exit =>
    rw [filterMap_sign?_of_quiet (quiet_recordExit r exit)]
    exact .silent _
  | @exitedMeanwhile exit =>
    rw [filterMap_sign?_of_quiet (quiet_recordExit r exit)]
    exact hquits
  | @posed glimpse session prompt hphase =>
    obtain ⟨question, hquestion⟩ := exists_question?_start prompt
    rw [exchange?_of_listening hphase, hquestion]
    exact .opens hquestion
  | skipped hphase htake hexit hquiet =>
    rw [filterMap_sign?_of_quiet hquiet]
    exact hquits
  | unasked hphase =>
    have hnone : r.exchange? = none := exchange?_of_listening hphase
    have hsilent : Conversation r.minPasswordLength none [] none := .silent none
    simpa [heeded, hnone] using hsilent
  | continued hphase hnext =>
    have hasked := exchange?_of_resolving hphase
    rw [heeded, hasked]
    exact .continues hnext
  | cancelled hphase htake hquiet =>
    have hasked := exchange?_of_resolving hphase
    rw [heeded, hasked, filterMap_sign?_of_quiet hquiet]
    exact .withholds (by rw [htake]; rfl)
  | replied hphase htake hexit hglimpse hdone hinput hquiet =>
    have hasked := exchange?_of_resolving hphase
    rw [heeded, hasked, List.filterMap_cons, filterMap_sign?_of_quiet hquiet]
    exact .replies htake
  | withheld hphase htake hgone hquiet =>
    have hasked := exchange?_of_resolving hphase
    rw [heeded, hasked, filterMap_sign?_of_quiet hquiet]
    exact .withholds (by rw [htake]; rfl)
  | expired hquiet =>
    rw [filterMap_sign?_of_quiet hquiet]
    exact hquits

theorem settle_exchange? (r : Run) : r.settle.exchange? = r.exchange? := by
  rcases settle_cases r with hsame | ⟨hphase, -, hover⟩
  · rw [hsame]
  · rw [hover, exchange?_of_listening hphase]
    rfl

theorem settle_minPasswordLength (r : Run) : r.settle.minPasswordLength = r.minPasswordLength := by
  rcases settle_cases r with hsame | ⟨-, -, hover⟩
  · rw [hsame]
  · rw [hover]
    rfl

theorem Transition.minPasswordLength {event : Event} {r' : Run} {effects : List Effect}
    (ht : Transition now r event r' effects) : r'.minPasswordLength = r.minPasswordLength := by
  cases ht with
  | absorbed => exact absorb_minPasswordLength r now _
  | absorbedLast => exact absorb_minPasswordLength r now _
  | _ => rfl

theorem step_minPasswordLength (r : Run) (now : Instant) (event : Event) :
    (r.step now event).1.minPasswordLength = r.minPasswordLength := by
  rcases step_cases r now event with ⟨outcome, -, hstep⟩ | ⟨-, r', effects, ht, hstep⟩
  · rw [hstep]
  · rw [hstep, settle_minPasswordLength, ht.minPasswordLength]

theorem conversation_step (r : Run) (now : Instant) (event : Event) :
    Conversation r.minPasswordLength r.exchange? (r.signs now event)
      (r.step now event).1.exchange? := by
  rcases step_cases r now event with ⟨outcome, hphase, hstep⟩ | ⟨-, r', effects, ht, hstep⟩
  · have hnone : r.exchange? = none := exchange?_of_over hphase
    have hheeded : r.heeded event = [] := by
      cases event <;> simp [heeded, hnone]
    rw [signs, hstep, hheeded]
    exact .silent _
  · rw [signs, hstep, settle_exchange?]
    exact ht.conversation

/-- The signs of a run are in order. -/
theorem conversation_talk (r : Run) (events : List (Instant × Event)) :
    Conversation r.minPasswordLength r.exchange? (r.talk events) (r.after events).exchange? := by
  induction events generalizing r with
  | nil => exact .silent _
  | cons e later ih =>
    have hlater := ih (r.step e.1 e.2).1
    rw [step_minPasswordLength] at hlater
    exact (conversation_step r e.1 e.2).andThen hlater

/-! ## The words of an outcome -/

theorem message_timedOut_ne (limit : Duration) :
    (RunError.timedOut limit).message ≠ RunError.cancelled.message := by
  have htimedOut : (RunError.timedOut limit).message = "timed out".toList := rfl
  have hcancelled : RunError.cancelled.message = "cancelled by user".toList := rfl
  rw [htimedOut, hcancelled]
  decide

/-- The message of a run with an address gives the address. -/
theorem message_finalOutcome_ne (h : r.address?.isSome = true) :
    r.finalOutcome.message ≠ RunError.cancelled.message := by
  obtain ⟨address, haddress⟩ := Option.isSome_iff_exists.1 h
  have hfinal : r.finalOutcome.message =
      Message.finished (r.address?.or (Address.find? r.output)) r.exit? := rfl
  have hcancelled : RunError.cancelled.message = "cancelled by user".toList := rfl
  have hmessage : Message.finished (some address) r.exit? = "address ".toList ++ address := rfl
  rw [hfinal, haddress, Option.some_or, hmessage, hcancelled]
  simp

/-! ## When questions and replies cease -/

/-- An address is certain, or the end of the child is known. -/
def Decided (r : Run) : Prop :=
  r.address?.isSome = true ∨ r.exit?.isSome = true

/-- How the phase of a run, its session, the address and the end of the child hang together. -/
structure Guarded (r : Run) : Prop where
  -- questions are handled until an address is certain
  done : r.session.isDone = r.address?.isSome
  -- the prompt that is being resolved is the one that the session handed out
  handedOut : ∀ prompt exchange, r.exchange? = some (prompt, exchange) →
    r.session.state = .resolving prompt.kind
  -- nobody is asked anything once the run is decided
  undecided : r.exchange?.isSome = true → ¬ r.Decided
  -- a run with an address has not been cancelled
  outcome : r.address?.isSome = true → ∀ outcome, r.phase = .over outcome →
    outcome.message ≠ RunError.cancelled.message

theorem not_decided_iff : ¬ r.Decided ↔ r.address? = none ∧ r.exit? = none := by
  simp [Decided, not_or]

/-- Of a run in which nobody is asked, only the words of its outcome are in question. -/
theorem guarded_of_unasked (hdone : r.session.isDone = r.address?.isSome)
    (hnone : r.exchange? = none)
    (houtcome : r.address?.isSome = true → ∀ outcome, r.phase = .over outcome →
      outcome.message ≠ RunError.cancelled.message) : r.Guarded where
  done := hdone
  handedOut := by
    intro prompt exchange hasked
    rw [hnone] at hasked
    cases hasked
  undecided := by
    intro hasked
    rw [hnone] at hasked
    exact absurd hasked Bool.false_ne_true
  outcome := houtcome

theorem guarded_of_listening (hdone : r.session.isDone = r.address?.isSome)
    (hphase : r.phase = .listening) : r.Guarded := by
  refine guarded_of_unasked hdone (exchange?_of_listening hphase) ?_
  intro _ outcome hover
  rw [hphase] at hover
  cases hover

theorem guarded_of_resolving {prompt : Prompt} {exchange : Resolution}
    (hdone : r.session.isDone = r.address?.isSome) (hphase : r.phase = .resolving prompt exchange)
    (hstate : r.session.state = .resolving prompt.kind) (hundecided : ¬ r.Decided) :
    r.Guarded where
  done := hdone
  handedOut := by
    intro prompt' exchange' hasked
    rw [exchange?_of_resolving hphase] at hasked
    cases hasked
    exact hstate
  undecided := fun _ => hundecided
  outcome := by
    intro _ outcome hover
    rw [hphase] at hover
    cases hover

theorem guarded_conclude {outcome : Outcome} (hdone : r.session.isDone = r.address?.isSome)
    (houtcome : r.address?.isSome = true → outcome.message ≠ RunError.cancelled.message) :
    (r.conclude outcome).Guarded := by
  refine guarded_of_unasked hdone rfl ?_
  intro haddress outcome' hover
  cases hover
  exact houtcome haddress

theorem guarded_new (invocation : Invocation) (options : RunOptions) :
    (new invocation options).Guarded :=
  guarded_of_listening rfl rfl

theorem noted_isDone (h : r.session.isDone = r.address?.isSome) (text : Text) :
    (r.noted text).session.isDone = (r.noted text).address?.isSome := by
  unfold noted
  cases r.newAddress? text with
  | none => exact h
  | some address => rfl

/-- A chunk that makes no address certain leaves an exchange under way. -/
theorem absorb_resolving {k : PromptKind} (h : r.session.state = .resolving k) (chunk : Chunk)
    (hdone : (r.absorb now chunk).1.session.isDone = false) :
    (r.absorb now chunk).1.session.state = .resolving k := by
  have hnoted : r.noted chunk.text = r := by
    unfold noted
    cases haddress : r.newAddress? chunk.text with
    | none => rfl
    | some address =>
      rw [absorb_session, Session.observe_isDone, noted, haddress] at hdone
      exact Bool.noConfusion (show true = false from hdone)
  rw [absorb_session, hnoted]
  exact Session.observe_resolving h chunk.text now

theorem absorb_done (h : r.Guarded) (chunk : Chunk) :
    (r.absorb now chunk).1.session.isDone = (r.absorb now chunk).1.address?.isSome := by
  rw [absorb_session, Session.observe_isDone, noted_isDone h.done, noted_address?,
    absorb_address?]

theorem guarded_leave (hdone : r.session.isDone = r.address?.isSome) : (r.leave now).Guarded :=
  guarded_of_listening ((Session.finishResolution_isDone r.session now).trans hdone) rfl

theorem address?_of_isDone (h : r.session.isDone = r.address?.isSome)
    (hdone : r.session.isDone = false) : r.address? = none := by
  rw [h] at hdone
  simpa using hdone

/-- A run that hands out a question has no address. -/
theorem Guarded.address?_of_takeReady (h : r.Guarded) {session : Session} {prompt : Prompt}
    (htake : r.session.takeReady now = (session, some prompt)) : r.address? = none :=
  address?_of_isDone h.done (Session.resolving_of_takeReady htake).2

/-- A chunk that comes during an exchange leaves the run guarded, unless it ends the exchange. -/
theorem Guarded.absorb_of_resolving (h : r.Guarded) {chunk : Chunk} {prompt : Prompt}
    {exchange : Resolution} (hphase : r.phase = .resolving prompt exchange)
    (hdone : (r.absorb now chunk).1.session.isDone = false) : (r.absorb now chunk).1.Guarded := by
  have hstate := h.handedOut prompt exchange (exchange?_of_resolving hphase)
  have haddress : (r.absorb now chunk).1.address? = none :=
    address?_of_isDone (absorb_done h chunk) hdone
  have hexit := (not_decided_iff.1 (h.undecided (isSome_exchange?_of_resolving hphase))).2
  refine guarded_of_resolving (absorb_done h chunk) ((absorb_phase r now chunk).trans hphase)
    (absorb_resolving hstate chunk hdone) (not_decided_iff.2 ⟨haddress, ?_⟩)
  rw [absorb_exit?, hexit]

theorem Guarded.absorb (h : r.Guarded) {chunk : Chunk}
    (hphase : r.phase = .listening ∨
      r.exchange?.isSome = true ∧ (r.absorb now chunk).1.session.isDone = false) :
    (r.absorb now chunk).1.Guarded := by
  rcases hphase with hlistening | ⟨hasked, hdone⟩
  · exact guarded_of_listening (absorb_done h chunk) ((absorb_phase r now chunk).trans hlistening)
  · obtain ⟨prompt, exchange, hphase⟩ := exists_resolving_of_isSome hasked
    exact h.absorb_of_resolving hphase hdone

/-- A session that hands out a question is not done, so no address is certain. -/
theorem Guarded.pose (h : r.Guarded) {session : Session} {prompt : Prompt}
    (htake : r.session.takeReady now = (session, some prompt)) (hexit : r.exit? = none) :
    Guarded { r with
      session := session, phase := .resolving prompt (Resolution.start prompt) } := by
  have haddress := h.address?_of_takeReady htake
  obtain ⟨hstate, -⟩ := Session.resolving_of_takeReady htake
  refine guarded_of_resolving ?_ rfl hstate (not_decided_iff.2 ⟨haddress, hexit⟩)
  simp [Session.isDone, hstate, haddress]

/-- The next question of an exchange is about the same prompt. -/
theorem Guarded.next (h : r.Guarded) {prompt : Prompt} {exchange : Resolution}
    (hphase : r.phase = .resolving prompt exchange) (next : Resolution) :
    Guarded { r with phase := .resolving prompt next } := by
  have hasked := exchange?_of_resolving hphase
  refine guarded_of_resolving h.done rfl (h.handedOut _ _ hasked) ?_
  exact h.undecided (isSome_exchange?_of_resolving hphase)

theorem Guarded.transition (h : r.Guarded) {event : Event} {r' : Run} {effects : List Effect}
    (ht : Transition now r event r' effects) : r'.Guarded := by
  cases ht with
  | late | known | unready | unasked => exact h
  | absorbed hopen hphase => exact h.absorb hphase
  | @absorbedLast chunk => exact guarded_leave (absorb_done h chunk)
  | closed => exact ⟨h.done, h.handedOut, h.undecided, h.outcome⟩
  | exited hphase => exact guarded_of_listening h.done hphase
  | exitedMeanwhile => exact guarded_leave h.done
  | posed hphase htake hexit => exact h.pose htake hexit
  | @skipped glimpse session prompt exit effects hphase htake =>
    have hsession : session.isDone = r.session.isDone := by
      rw [← Session.takeReady_isDone r.session now, htake]
    exact guarded_leave (hsession.trans h.done)
  | continued hphase => exact h.next hphase _
  | cancelled hphase =>
    -- only a run that resolves is cancelled, and such a run has no address
    have hundecided := h.undecided (isSome_exchange?_of_resolving hphase)
    exact guarded_conclude h.done fun haddress => absurd (.inl haddress) hundecided
  | replied => exact guarded_leave h.done
  | withheld => exact guarded_leave h.done
  | expired => exact guarded_conclude h.done fun _ => message_timedOut_ne r.invocation.timeout

theorem Guarded.settle (h : r.Guarded) : r.settle.Guarded := by
  rcases settle_cases r with hsame | ⟨-, -, hover⟩
  · rw [hsame]
    exact h
  · rw [hover]
    exact guarded_conclude h.done message_finalOutcome_ne

theorem Guarded.step (h : r.Guarded) (now : Instant) (event : Event) :
    (r.step now event).1.Guarded :=
  step_induction h (fun _ h => h.settle) h.transition

theorem guarded_after (invocation : Invocation) (options : RunOptions)
    (events : List (Instant × Event)) : ((new invocation options).after events).Guarded :=
  after_induction (guarded_new invocation options) (fun _ now event h => h.step now event) events

/-- A run that is decided stays so. -/
theorem Transition.decided {event : Event} {r' : Run} {effects : List Effect}
    (ht : Transition now r event r' effects) (h : r.Decided) : r'.Decided := by
  -- a chunk forgets neither an address nor the end of the child
  have habsorb : ∀ chunk, (r.absorb now chunk).1.Decided := by
    intro chunk
    rcases h with haddress | hexit
    · left
      rw [absorb_address?, Option.isSome_or, haddress, Bool.or_true]
    · right
      rw [absorb_exit?]
      exact hexit
  cases ht with
  | absorbed => exact habsorb _
  | absorbedLast => exact habsorb _
  | exited => exact .inr rfl
  | exitedMeanwhile => exact .inr rfl
  | skipped => exact .inr rfl
  | withheld =>
    refine h.imp id fun hexit => ?_
    change (r.exit?.or _).isSome = true
    rw [Option.isSome_or, hexit, Bool.true_or]
  | _ => exact h

theorem decided_settle : r.settle.Decided ↔ r.Decided := by
  rcases settle_cases r with hsame | ⟨-, -, hover⟩
  · rw [hsame]
  · rw [hover]
    exact Iff.rfl

theorem Decided.step (h : r.Decided) (now : Instant) (event : Event) :
    (r.step now event).1.Decided :=
  step_induction h (fun _ => decided_settle.2) fun ht => ht.decided h

/-- A transition that puts a question or writes a reply leaves the run undecided. -/
theorem Transition.quiet (hg : r.Guarded) {event : Event} {r' : Run} {effects : List Effect}
    (ht : Transition now r event r' effects) (h : r'.Decided) : Quiet effects := by
  cases ht with
  | late | closed | known | unready | unasked => exact quiet_nil
  | absorbed => exact quiet_absorb r now _
  | absorbedLast => exact quiet_absorb r now _
  | exited => exact quiet_recordExit r _
  | exitedMeanwhile => exact quiet_recordExit r _
  | posed hphase htake hexit hglimpse =>
    exact absurd h (not_decided_iff.2 ⟨hg.address?_of_takeReady htake, hexit⟩)
  | continued hphase hnext =>
    exact absurd h (hg.undecided (isSome_exchange?_of_resolving hphase))
  | replied hphase htake hexit hglimpse hdone hinput hquiet =>
    have haddress : r.address? = none := address?_of_isDone hg.done hdone
    exact absurd h (not_decided_iff.2 ⟨haddress, hexit⟩)
  | skipped hphase htake hexit hquiet => exact hquiet
  | cancelled hphase htake hquiet => exact hquiet
  | withheld hphase htake hgone hquiet => exact hquiet
  | expired hquiet => exact hquiet

theorem Guarded.quiet_step (hg : r.Guarded) {event : Event} (h : (r.step now event).1.Decided) :
    Quiet (r.step now event).2 := by
  rcases step_cases r now event with ⟨outcome, -, hstep⟩ | ⟨-, r', effects, ht, hstep⟩
  · rw [hstep]
    exact quiet_nil
  · rw [hstep] at h ⊢
    exact ht.quiet hg (decided_settle.1 h)

/-- A decided run resolves nothing. -/
theorem Guarded.exchange?_of_decided (hg : r.Guarded) (h : r.Decided) : r.exchange? = none := by
  cases hasked : r.exchange? with
  | none => rfl
  | some exchange => exact absurd h (hg.undecided (by rw [hasked]; rfl))

/-- From a decided run on, nothing is asked, no answer is heeded and nothing is written. -/
theorem Guarded.talk_of_decided (hg : r.Guarded) (h : r.Decided) (later : List (Instant × Event)) :
    r.talk later = [] := by
  -- a step keeps both what guards the run and that it is decided
  induction later generalizing r with
  | nil => rfl
  | cons e later ih =>
    have hquiet : Quiet (r.step e.1 e.2).2 := hg.quiet_step (h.step e.1 e.2)
    have hheeded : r.heeded e.2 = [] := by
      cases hevent : e.2 <;> simp [heeded, hg.exchange?_of_decided h]
    have hlater := ih (hg.step e.1 e.2) (h.step e.1 e.2)
    rw [talk, signs, hheeded, filterMap_sign?_of_quiet hquiet, hlater]
    rfl

/-- An answer that nobody waits for changes nothing. -/
theorem step_answered_of_exchange? (hclosing : r.Closing) (h : r.exchange? = none) (now : Instant)
    (answer : Answer) (glimpse : Glimpse) : r.step now (.answered answer glimpse) = (r, []) := by
  cases hphase : r.phase with
  | «over» outcome => simp [step, hphase]
  | listening =>
    have hheard : r.heardOut = false := hclosing.heardOut_eq_false (by simp [hphase])
    simp [step, hphase, stepListening, settle_of_not_heardOut hheard]
  | resolving prompt exchange =>
    rw [exchange?_of_resolving hphase] at h
    cases h

/-! ## All runs -/

/--
The signs of every run are in order: one prompt at a time is being resolved, the one that the
session handed out, and only its reply is written, once.  As soon as an address is certain or the
end of the child is known, nothing is being resolved; from that very step on nothing is asked or
written, and an answer that still comes changes nothing.  A run with an address does not end as
cancelled.
-/
theorem conversation_after (invocation : Invocation) (options : RunOptions)
    (events : List (Instant × Event)) :
    let start := new invocation options
    let r := start.after events
    Conversation options.minPasswordLength none (start.talk events) r.exchange? ∧
    (∀ prompt exchange, r.exchange? = some (prompt, exchange) →
      r.session.state = .resolving prompt.kind) ∧
    (r.Decided → r.exchange? = none ∧ (∀ later, r.talk later = []) ∧
      ∀ now answer glimpse, r.step now (.answered answer glimpse) = (r, [])) ∧
    (∀ now event, (r.step now event).1.Decided → Quiet (r.step now event).2) ∧
    (r.address?.isSome = true → ∀ outcome, r.outcome? = some outcome →
      outcome.message ≠ RunError.cancelled.message) := by
  intro start r
  have hguarded : r.Guarded := guarded_after invocation options events
  refine ⟨conversation_talk start events, hguarded.handedOut, ?_, ?_, ?_⟩
  · intro hdecided
    have hnone : r.exchange? = none := hguarded.exchange?_of_decided hdecided
    exact ⟨hnone, hguarded.talk_of_decided hdecided,
      step_answered_of_exchange? (closing_after invocation options events) hnone⟩
  · intro now event hdecided
    exact hguarded.quiet_step hdecided
  · intro haddress outcome houtcome
    refine hguarded.outcome haddress outcome ?_
    cases hphase : r.phase <;> simp_all [outcome?]

end Run
end ContractAssist
