import ContractAssist.Run.Step

/-!
# Transition — what one event can do to a run

`Run.step` is a function with one case for each event in each phase.  Here it is read as a relation,
so that a law of runs is proved by going through what can happen, with all conditions at hand:

* `Run.Transition` lists what an event can do, up to the end of a run that has heard everything;
* `settle_cases`: a run comes to its end exactly when it has heard everything;
* `step_cases`: a step of a run that is not over is a transition, followed by `Run.settle`;
* `Run.after` is the run after a list of events, and `Run.effects` are all that it asks for.  What
  every transition keeps, every step keeps (`step_induction`), and so does every run
  (`after_induction`).
-/

namespace ContractAssist
namespace Run

/-! ## Runs -/

def after (r : Run) (events : List (Instant × Event)) : Run :=
  events.foldl (fun r e => (r.step e.1 e.2).1) r

@[simp] theorem after_nil (r : Run) : r.after [] = r := rfl

@[simp] theorem after_cons (r : Run) (e : Instant × Event) (later : List (Instant × Event)) :
    r.after (e :: later) = (r.step e.1 e.2).1.after later := rfl

def effects (r : Run) : List (Instant × Event) → List Effect
  | [] => []
  | e :: later => (r.step e.1 e.2).2 ++ (r.step e.1 e.2).1.effects later

/-- What holds of a run and is kept by every step, holds after any events. -/
theorem after_induction {P : Run → Prop} {r : Run} (hr : P r)
    (hstep : ∀ r now event, P r → P (r.step now event).1) (events : List (Instant × Event)) :
    P (r.after events) := by
  induction events generalizing r with
  | nil => exact hr
  | cons e later ih => exact ih (hstep r e.1 e.2 hr)

/-- The prompt that is being resolved, and how far its exchange has come. -/
def exchange? (r : Run) : Option (Prompt × Resolution) :=
  match r.phase with
  | .resolving prompt exchange => some (prompt, exchange)
  | _ => none

theorem exchange?_of_resolving {r : Run} {prompt : Prompt} {exchange : Resolution}
    (h : r.phase = .resolving prompt exchange) : r.exchange? = some (prompt, exchange) := by
  simp [exchange?, h]

theorem isSome_exchange?_of_resolving {r : Run} {prompt : Prompt} {exchange : Resolution}
    (h : r.phase = .resolving prompt exchange) : r.exchange?.isSome = true := by
  simp [exchange?, h]

theorem exists_resolving_of_isSome {r : Run} (h : r.exchange?.isSome = true) :
    ∃ prompt exchange, r.phase = .resolving prompt exchange := by
  cases hphase : r.phase with
  | resolving prompt exchange => exact ⟨prompt, exchange, rfl⟩
  | _ => simp [exchange?, hphase] at h

theorem exchange?_of_listening {r : Run} (h : r.phase = .listening) : r.exchange? = none := by
  simp [exchange?, h]

theorem exchange?_of_over {r : Run} {outcome : Outcome} (h : r.phase = .over outcome) :
    r.exchange? = none := by
  simp [exchange?, h]

/-! ## Effects that nobody but an onlooker notices -/

def Effect.isQuiet : Effect → Bool
  | ask _ => false
  | write _ => false
  | _ => true

/-- None of the effects puts a question or writes to the child. -/
def Quiet (effects : List Effect) : Prop :=
  ∀ effect ∈ effects, effect.isQuiet = true

theorem quiet_nil : Quiet [] := by
  intro effect h
  exact absurd h List.not_mem_nil

theorem Quiet.cons {effect : Effect} {effects : List Effect} (h : effect.isQuiet = true)
    (hrest : Quiet effects) : Quiet (effect :: effects) := by
  intro e he
  rcases List.mem_cons.1 he with rfl | he
  · exact h
  · exact hrest e he

theorem quiet_presenting (stream : StreamKind) (text : Text) : Quiet (presenting stream text) := by
  unfold presenting
  split
  · exact quiet_nil
  · exact quiet_nil.cons rfl

theorem quiet_absorb (r : Run) (now : Instant) (chunk : Chunk) :
    Quiet (r.absorb now chunk).2 := by
  unfold absorb
  cases r.newAddress? chunk.text with
  | none => exact quiet_presenting _ _
  | some address => exact ((quiet_presenting _ _).cons rfl).cons rfl

theorem quiet_recordExit (r : Run) (exit : Exit) : Quiet (r.recordExit exit).2 := by
  cases exit with
  | ended how => exact quiet_nil
  | unknown cause => exact quiet_nil.cons rfl

theorem quiet_expire (r : Run) : Quiet r.expire.2 :=
  (quiet_nil.cons rfl).cons rfl

theorem quiet_cancel (r : Run) (prompt : Prompt) (exhausted : Bool) :
    Quiet (r.cancel prompt exhausted).2 := by
  cases exhausted with
  | false => exact (quiet_nil.cons rfl).cons rfl
  | true => exact ((quiet_nil.cons rfl).cons rfl).cons rfl

/-! ## What an event can do -/

/-- What an event can do to a run that is not over, and the effects that it asks for. -/
inductive Transition (now : Instant) (r : Run) : Event → Run → List Effect → Prop where
  -- output after the end of the streams is nobody's
  | late {chunk} (hclosed : r.streamsOpen = false) : Transition now r (.chunk chunk) r []
  -- a chunk is absorbed; an exchange goes on if no address is certain
  | absorbed {chunk} (hopen : r.streamsOpen = true)
      (hphase : r.phase = .listening ∨
        r.exchange?.isSome = true ∧ (r.absorb now chunk).1.session.isDone = false) :
      Transition now r (.chunk chunk) (r.absorb now chunk).1 (r.absorb now chunk).2
  -- a chunk makes an address certain, which ends the exchange
  | absorbedLast {chunk} (hopen : r.streamsOpen = true) (hphase : r.exchange?.isSome = true)
      (hdone : (r.absorb now chunk).1.session.isDone = true) :
      Transition now r (.chunk chunk) ((r.absorb now chunk).1.leave now) (r.absorb now chunk).2
  | closed : Transition now r .streamsClosed { r with streamsOpen := false } []
  -- how the child ended is known already
  | known {exit} (hexit : r.exit?.isSome = true) : Transition now r (.exited exit) r []
  | exited {exit} (hphase : r.phase = .listening) (hexit : r.exit? = none) :
      Transition now r (.exited exit) { r with exit? := some exit } (r.recordExit exit).2
  -- the child ends, which ends the exchange
  | exitedMeanwhile {exit} (hphase : r.exchange?.isSome = true) (hexit : r.exit? = none) :
      Transition now r (.exited exit) ({ r with exit? := some exit }.leave now)
        (r.recordExit exit).2
  -- no question is ready to be handed out, or one is being answered
  | unready {glimpse}
      (hready : r.exchange?.isSome = true ∨ (r.session.takeReady now).2 = none) :
      Transition now r (.settled glimpse) r []
  | posed {glimpse session prompt} (hphase : r.phase = .listening)
      (htake : r.session.takeReady now = (session, some prompt)) (hexit : r.exit? = none)
      (hglimpse : glimpse.exit? = none) :
      Transition now r (.settled glimpse)
        { r with session := session, phase := .resolving prompt (Resolution.start prompt) }
        ((Resolution.start prompt).question?.toList.map .ask)
  -- a question is handed out but not put, for the child has ended
  | skipped {glimpse session prompt exit effects} (hphase : r.phase = .listening)
      (htake : r.session.takeReady now = (session, some prompt))
      (hexit : r.exit?.or glimpse.exit? = some exit) (hquiet : Quiet effects) :
      Transition now r (.settled glimpse)
        ({ r with session := session, exit? := some exit }.leave now) effects
  -- an answer that nobody waits for is discarded
  | unasked {answer glimpse} (hphase : r.phase = .listening) :
      Transition now r (.answered answer glimpse) r []
  | continued {answer glimpse prompt exchange question}
      (hphase : r.phase = .resolving prompt exchange)
      (hnext : (exchange.take r.minPasswordLength answer).question? = some question) :
      Transition now r (.answered answer glimpse)
        { r with phase := .resolving prompt (exchange.take r.minPasswordLength answer) }
        [.ask question]
  | cancelled {answer glimpse prompt exchange exhausted effects}
      (hphase : r.phase = .resolving prompt exchange)
      (htake : exchange.take r.minPasswordLength answer = .settled .cancelled exhausted)
      (hquiet : Quiet effects) :
      Transition now r (.answered answer glimpse)
        (r.conclude (.failure r.output RunError.cancelled.message)) effects
  | replied {answer glimpse prompt exchange line exhausted effects}
      (hphase : r.phase = .resolving prompt exchange)
      (htake : exchange.take r.minPasswordLength answer = .settled (.reply line) exhausted)
      (hexit : r.exit? = none) (hglimpse : glimpse.exit? = none)
      (hdone : r.session.isDone = false) (hinput : r.inputOpen = true) (hquiet : Quiet effects) :
      Transition now r (.answered answer glimpse) (r.leave now) (.write line :: effects)
  -- the reply is withheld: the child has ended, or an address is certain
  | withheld {answer glimpse prompt exchange line exhausted effects}
      (hphase : r.phase = .resolving prompt exchange)
      (htake : exchange.take r.minPasswordLength answer = .settled (.reply line) exhausted)
      (hgone : (r.exit?.or glimpse.exit?).isSome = true ∨ r.session.isDone = true ∨
        r.inputOpen = false)
      (hquiet : Quiet effects) :
      Transition now r (.answered answer glimpse)
        ({ r with exit? := r.exit?.or glimpse.exit? }.leave now) effects
  | expired {effects} (hquiet : Quiet effects) :
      Transition now r .expired
        (r.conclude (.failure r.output (RunError.timedOut r.invocation.timeout).message)) effects

variable {r : Run} {now : Instant}

/-- To look at a child that still runs shows nothing. -/
theorem look_alive {glimpse : Glimpse} (hexit : r.exit? = none) (hglimpse : glimpse.exit? = none) :
    r.look glimpse = (r, [], true) := by
  simp [look, hexit, hglimpse]

/-- To look at a child that has ended shows its end, and takes note of it. -/
theorem look_gone {glimpse : Glimpse} {exit : Exit} (h : r.exit?.or glimpse.exit? = some exit) :
    ∃ effects, r.look glimpse = ({ r with exit? := some exit }, effects, false) ∧
      Quiet effects := by
  cases hexit : r.exit? with
  | some known =>
    -- the end was known before, so there is nothing to take note of
    have hknown : known = exit := by simpa [hexit] using h
    have hsame : { r with exit? := some exit } = r := by rw [← hknown, ← hexit]
    refine ⟨[], ?_, quiet_nil⟩
    rw [hsame]
    simp [look, hexit]
  | none =>
    have hglimpse : glimpse.exit? = some exit := by simpa [hexit] using h
    exact ⟨_, by simp [look, hexit, hglimpse, recordExit], quiet_recordExit r exit⟩

theorem quiet_replyLost (refusal? : Option IoError) :
    Quiet (refusal?.toList.map fun cause => .log (Message.replyLost cause)) := by
  cases refusal? with
  | none => exact quiet_nil
  | some cause => exact quiet_nil.cons rfl

/-- A question is put only to a child that still runs. -/
theorem transition_pose {glimpse : Glimpse} {session : Session} {prompt : Prompt}
    (hphase : r.phase = .listening) (htake : r.session.takeReady now = (session, some prompt)) :
    Transition now r (.settled glimpse) ({ r with session := session }.pose now prompt glimpse).1
      ({ r with session := session }.pose now prompt glimpse).2 := by
  cases hexit : r.exit?.or glimpse.exit? with
  | none =>
    obtain ⟨hrun, hglimpse⟩ := Option.or_eq_none_iff.1 hexit
    have hlook := look_alive (r := { r with session := session }) hrun hglimpse
    simpa only [pose, hlook, inquire, List.nil_append] using
      Transition.posed hphase htake hrun hglimpse
  | some exit =>
    obtain ⟨effects, hlook, hquiet⟩ := look_gone (r := { r with session := session }) hexit
    simpa only [pose, hlook] using Transition.skipped hphase htake hexit hquiet

theorem transition_listening (hphase : r.phase = .listening) (event : Event) :
    Transition now r event (r.stepListening now event).1 (r.stepListening now event).2 := by
  cases event with
  | chunk chunk =>
    cases hopen : r.streamsOpen with
    | true => simpa only [stepListening, hopen, if_true] using .absorbed hopen (.inl hphase)
    | false => simpa [stepListening, hopen] using Transition.late hopen
  | streamsClosed => exact .closed
  | exited exit =>
    cases hexit : r.exit? with
    | none => simpa [stepListening, hexit, recordExit] using Transition.exited hphase hexit
    | some known => simpa [stepListening, hexit] using Transition.known (by simp [hexit])
  | settled glimpse =>
    rcases htake : r.session.takeReady now with ⟨session, _ | prompt⟩
    · simpa [stepListening, handOut, htake] using Transition.unready (.inr (by rw [htake]))
    · simpa only [stepListening, handOut, htake] using transition_pose hphase htake
  | answered answer glimpse => exact .unasked hphase
  | expired => exact .expired (quiet_expire r)

/-- A reply reaches only a child that still runs, and only while no address is certain. -/
theorem transition_reply {answer : Answer} {glimpse : Glimpse} {prompt : Prompt}
    {exchange : Resolution} {line : Text} {exhausted : Bool}
    (hphase : r.phase = .resolving prompt exchange)
    (htake : exchange.take r.minPasswordLength answer = .settled (.reply line) exhausted) :
    Transition now r (.answered answer glimpse) (r.reply now line glimpse).1
      (r.reply now line glimpse).2 := by
  cases hexit : r.exit?.or glimpse.exit? with
  | some exit =>
    -- the child has ended, as the run knows or sees by its last look
    obtain ⟨effects, hlook, hquiet⟩ := look_gone hexit
    have hgone : (r.exit?.or glimpse.exit?).isSome = true := by rw [hexit]; rfl
    have hwithheld : Transition now r (.answered answer glimpse)
        ({ r with exit? := r.exit?.or glimpse.exit? }.leave now) effects :=
      .withheld hphase htake (.inl hgone) hquiet
    rw [hexit] at hwithheld
    simpa [reply, hlook] using hwithheld
  | none =>
    obtain ⟨hrun, hglimpse⟩ := Option.or_eq_none_iff.1 hexit
    have hlook := look_alive hrun hglimpse
    have hsame : { r with exit? := r.exit?.or glimpse.exit? } = r := by rw [hexit, ← hrun]
    by_cases hwrites : r.session.isDone = false ∧ r.inputOpen = true
    · obtain ⟨hdone, hinput⟩ := hwrites
      simpa only [reply, hlook, hdone, writing, hinput, Bool.not_false, Bool.and_true, if_true,
        List.nil_append] using
        Transition.replied hphase htake hrun hglimpse hdone hinput (quiet_replyLost _)
    · -- the child still runs, but an address is certain or its input is closed
      have hgone : r.session.isDone = true ∨ r.inputOpen = false := by
        cases hdone : r.session.isDone <;> cases hinput : r.inputOpen <;> simp_all
      have hwithheld : Transition now r (.answered answer glimpse)
          ({ r with exit? := r.exit?.or glimpse.exit? }.leave now) [] :=
        .withheld hphase htake (.inr hgone) quiet_nil
      rw [hsame] at hwithheld
      have heffects : (r.reply now line glimpse).2 = [] := by
        rcases hgone with hdone | hinput
        · simp [reply, hlook, hdone]
        · simp [reply, hlook, writing, hinput]
      have hrun' : (r.reply now line glimpse).1 = r.leave now := by simp [reply, hlook]
      rw [heffects, hrun']
      exact hwithheld

theorem transition_resolving {prompt : Prompt} {exchange : Resolution}
    (hphase : r.phase = .resolving prompt exchange) (event : Event) :
    Transition now r event (r.stepResolving now prompt exchange event).1
      (r.stepResolving now prompt exchange event).2 := by
  have hasked : r.exchange?.isSome = true := isSome_exchange?_of_resolving hphase
  cases event with
  | chunk chunk =>
    cases hopen : r.streamsOpen with
    | false => simpa [stepResolving, hopen] using Transition.late hopen
    | true =>
      cases hdone : (r.absorb now chunk).1.session.isDone with
      | true =>
        simpa [stepResolving, hopen, leaveIfDone, hdone] using
          Transition.absorbedLast hopen hasked hdone
      | false =>
        simpa [stepResolving, hopen, leaveIfDone, hdone] using
          Transition.absorbed hopen (.inr ⟨hasked, hdone⟩)
  | streamsClosed => exact .closed
  | exited exit =>
    cases hexit : r.exit? with
    | none => simpa [stepResolving, hexit, recordExit] using Transition.exitedMeanwhile hasked hexit
    | some known => simpa [stepResolving, hexit] using Transition.known (by simp [hexit])
  | settled glimpse => exact .unready (.inl hasked)
  | answered answer glimpse =>
    cases htake : exchange.take r.minPasswordLength answer with
    | settled response exhausted =>
      cases response with
      | reply line =>
        simpa only [stepResolving, takeAnswer, htake] using transition_reply hphase htake
      | cancelled =>
        simp only [stepResolving, takeAnswer, htake]
        exact .cancelled hphase htake (quiet_cancel r prompt exhausted)
    -- whether another request is next is said of `take` itself, and only then of its result
    | confirming question =>
      have hnext : Transition now r (.answered answer glimpse)
          { r with phase := .resolving prompt (exchange.take r.minPasswordLength answer) }
          [.ask (.confirm question)] := .continued hphase (by rw [htake]; rfl)
      rw [htake] at hnext
      simp only [stepResolving, takeAnswer, htake]
      exact hnext
    | entering request left =>
      have hnext : Transition now r (.answered answer glimpse)
          { r with phase := .resolving prompt (exchange.take r.minPasswordLength answer) }
          [.ask (.secret request)] := .continued hphase (by rw [htake]; rfl)
      rw [htake] at hnext
      simp only [stepResolving, takeAnswer, htake]
      exact hnext
  | expired => exact .expired (quiet_expire r)

/-! ## Steps -/

/-- Both streams and the child have come to their end, so that nothing more can be heard. -/
def heardOut (r : Run) : Bool :=
  !r.streamsOpen && r.exit?.isSome

theorem settle_of_heardOut (hphase : r.phase = .listening) (h : r.heardOut = true) :
    r.settle = r.conclude r.finalOutcome := by
  have hboth : r.streamsOpen = false ∧ r.exit?.isSome = true := by simpa [heardOut] using h
  have hexit : r.exit?.isNone = false := by
    rw [← Option.not_isSome, hboth.2]
    rfl
  simp [settle, hphase, hboth.1, hexit]

theorem settle_of_not_heardOut (h : r.heardOut = false) : r.settle = r := by
  have hone : r.streamsOpen = true ∨ r.exit?.isNone = true := by
    cases hopen : r.streamsOpen <;> cases hexit : r.exit? <;> simp_all [heardOut]
  unfold settle
  split
  · rcases hone with hopen | hexit
    · simp [hopen]
    · simp [hexit]
  · rfl

/-- A run ends by itself only while it listens, and once it has heard everything. -/
theorem settle_cases (r : Run) :
    r.settle = r ∨
    r.phase = .listening ∧ r.heardOut = true ∧ r.settle = r.conclude r.finalOutcome := by
  cases hphase : r.phase with
  | listening =>
    cases hheard : r.heardOut with
    | false => exact .inl (settle_of_not_heardOut hheard)
    | true => exact .inr ⟨rfl, rfl, settle_of_heardOut hphase hheard⟩
  | resolving prompt exchange => exact .inl (by simp [settle, hphase])
  | «over» outcome => exact .inl (by simp [settle, hphase])

/-- A run that is over stays as it is; any other one makes a transition. -/
theorem step_cases (r : Run) (now : Instant) (event : Event) :
    (∃ outcome, r.phase = .over outcome ∧ r.step now event = (r, [])) ∨
    ((∀ outcome, r.phase ≠ .over outcome) ∧ ∃ r' effects, Transition now r event r' effects ∧
      r.step now event = (r'.settle, effects)) := by
  cases hphase : r.phase with
  | «over» outcome => exact .inl ⟨outcome, rfl, by simp [step, hphase]⟩
  | listening =>
    exact .inr ⟨by simp, _, _, transition_listening hphase event, by simp only [step, hphase]⟩
  | resolving prompt exchange =>
    exact .inr ⟨by simp, _, _, transition_resolving hphase event, by simp only [step, hphase]⟩

/-- What every transition and the end of a run keep, every step keeps. -/
theorem step_induction {P : Run → Prop} {event : Event} (h : P r)
    (hsettle : ∀ r, P r → P r.settle)
    (htransition : ∀ {r' effects}, Transition now r event r' effects → P r') :
    P (r.step now event).1 := by
  rcases step_cases r now event with ⟨outcome, -, hstep⟩ | ⟨-, r', effects, ht, hstep⟩
  · rw [hstep]
    exact h
  · rw [hstep]
    exact hsettle r' (htransition ht)

end Run
end ContractAssist
