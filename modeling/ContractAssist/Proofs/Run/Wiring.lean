import ContractAssist.Proofs.Run.Delivery
import ContractAssist.Proofs.Stream.Reader

/-!
# Wiring — from two streams into one run

What a child writes goes from its two streams through two readers and one channel into the run.  The
readers, the run and all else that happens to it go on in any order.

1. `Wiring` is a run with the channel and the readers that feed it, and `Wiring.step` lets a read
   complete, lets the run receive, or lets something else happen to the run;
2. `Wiring.step_owed` is a law of conservation: what a stream has given and will still give is in
   the run, in the channel, or still to be read;
3. `Wiring.Sealed`: a run is told that its streams are at their end only when nothing is left in the
   channel and no reader goes on;
4. `delivered_after` puts these together with what a run does with its output.
-/

namespace ContractAssist

/-- A run with the channel and the readers that feed it. -/
structure Wiring where
  run : Run
  -- the chunks that were sent and not received yet, first come first
  channel : List Chunk
  -- the reader of each stream
  feeder : StreamKind → Feeder

namespace Wiring

inductive Event where
  | read (stream : StreamKind) (outcome : ReadOutcome)
  | receive
  | exited (exit : Exit)
  | settled (glimpse : Run.Glimpse)
  | answered (answer : Answer) (glimpse : Run.Glimpse)
  | expired
  deriving DecidableEq, Repr

def new (invocation : Invocation) (options : RunOptions) : Wiring :=
  ⟨.new invocation options, [], fun _ => .reading none⟩

def tell (w : Wiring) (now : Instant) (event : Run.Event) : Wiring :=
  { w with run := (w.run.step now event).1 }

/-- A read completes, and its chunks go into the channel. -/
def read (w : Wiring) (stream : StreamKind) (outcome : ReadOutcome) : Wiring :=
  { w with
    channel := w.channel ++ ((w.feeder stream).read outcome).1.map (Chunk.mk stream)
    feeder := fun s => if s = stream then ((w.feeder stream).read outcome).2 else w.feeder s }

/--
The run looks into the channel, as long as it listens to its streams: it gets the first chunk, or
learns that no reader is left to send one.
-/
def receive (w : Wiring) (now : Instant) : Wiring :=
  if w.run.streamsOpen then
    match w.channel with
    | chunk :: rest => { w with channel := rest }.tell now (.chunk chunk)
    | [] =>
      if w.feeder .output = .ended ∧ w.feeder .diagnostics = .ended then w.tell now .streamsClosed
      else w
  else w

/-- Takes one event; once the run is over, nobody is left to receive anything. -/
def step (w : Wiring) (now : Instant) (event : Event) : Wiring :=
  if w.run.outcome?.isSome then w
  else
    match event with
    | .read stream outcome => w.read stream outcome
    | .receive => w.receive now
    | .exited exit => w.tell now (.exited exit)
    | .settled glimpse => w.tell now (.settled glimpse)
    | .answered answer glimpse => w.tell now (.answered answer glimpse)
    | .expired => w.tell now .expired

def after (w : Wiring) (schedule : List (Instant × Event)) : Wiring :=
  schedule.foldl (fun w e => w.step e.1 e.2) w

@[simp] theorem after_cons (w : Wiring) (e : Instant × Event) (later : List (Instant × Event)) :
    w.after (e :: later) = (w.step e.1 e.2).after later := rfl

/-- What holds of a wiring and is kept by every step, holds after any events. -/
theorem after_induction {P : Wiring → Prop} {w : Wiring} (hw : P w)
    (hstep : ∀ w now event, P w → P (w.step now event)) (schedule : List (Instant × Event)) :
    P (w.after schedule) := by
  induction schedule generalizing w with
  | nil => exact hw
  | cons e later ih => exact ih (hstep w e.1 e.2 hw)

/-- What an event tells a run that goes on, apart from what comes through the channel. -/
def Event.aside? : Event → Option Run.Event
  | .read _ _ => none
  | .receive => none
  | .exited exit => some (.exited exit)
  | .settled glimpse => some (.settled glimpse)
  | .answered answer glimpse => some (.answered answer glimpse)
  | .expired => some .expired

variable {w : Wiring} {now : Instant}

inductive Transition (now : Instant) (w : Wiring) : Event → Wiring → Prop where
  -- nothing changes: the run is over, or there is nothing to receive
  | idle {event} (hidle : w.run.outcome?.isSome = true ∨ event = .receive) :
      Transition now w event w
  | read {stream outcome} : Transition now w (.read stream outcome) (w.read stream outcome)
  | received {chunk rest} (hphase : w.run.outcome? = none) (hopen : w.run.streamsOpen = true)
      (hchannel : w.channel = chunk :: rest) :
      Transition now w .receive ({ w with channel := rest }.tell now (.chunk chunk))
  -- the run learns that its streams are at their end
  | closed (hchannel : w.channel = []) (hended : ∀ stream, w.feeder stream = .ended) :
      Transition now w .receive (w.tell now .streamsClosed)
  | aside {event told} (hphase : w.run.outcome? = none) (htold : event.aside? = some told) :
      Transition now w event (w.tell now told)

theorem step_transition (w : Wiring) (now : Instant) (event : Event) :
    Transition now w event (w.step now event) := by
  cases hover : w.run.outcome? with
  | some outcome =>
    have hsame : w.step now event = w := by simp [step, hover]
    rw [hsame]
    exact .idle (.inl (by rw [hover]; rfl))
  | none =>
    have hgoes : w.run.outcome?.isSome = false := by
      rw [hover]
      rfl
    cases event with
    | read stream outcome => simpa [step, hgoes] using Transition.read
    | exited exit => simpa [step, hgoes] using Transition.aside hover rfl
    | settled glimpse => simpa [step, hgoes] using Transition.aside hover rfl
    | answered answer glimpse => simpa [step, hgoes] using Transition.aside hover rfl
    | expired => simpa [step, hgoes] using Transition.aside hover rfl
    | receive =>
      have hstep : w.step now .receive = w.receive now := by simp [step, hgoes]
      rw [hstep]
      cases hopen : w.run.streamsOpen with
      | false => simpa [receive, hopen] using Transition.idle (.inr rfl)
      | true =>
        cases hchannel : w.channel with
        | cons chunk rest =>
          simpa [receive, hopen, hchannel] using Transition.received hover hopen hchannel
        | nil =>
          -- an empty channel is closed only when no reader can send any more
          by_cases hended : w.feeder .output = .ended ∧ w.feeder .diagnostics = .ended
          · have hboth : ∀ stream, w.feeder stream = .ended := by
              intro stream
              cases stream with
              | output => exact hended.1
              | diagnostics => exact hended.2
            simpa [receive, hopen, hchannel, hended] using Transition.closed hchannel hboth
          · simpa [receive, hopen, hchannel, hended] using Transition.idle (.inr rfl)

theorem Transition.run {event : Event} {w' : Wiring} (ht : Transition now w event w') :
    w'.run = w.run ∨ ∃ told, w'.run = (w.run.step now told).1 := by
  cases ht with
  | idle => exact .inl rfl
  | read => exact .inl rfl
  | received => exact .inr ⟨_, rfl⟩
  | closed => exact .inr ⟨_, rfl⟩
  | aside => exact .inr ⟨_, rfl⟩

/-- The run of a wiring is a run: it is shown nothing but events, one after another. -/
theorem exists_events (w : Wiring) (schedule : List (Instant × Event)) :
    ∃ events : List (Instant × Run.Event), (w.after schedule).run = w.run.after events := by
  induction schedule generalizing w with
  | nil => exact ⟨[], rfl⟩
  | cons e later ih =>
    obtain ⟨events, hevents⟩ := ih (w.step e.1 e.2)
    rcases (step_transition w e.1 e.2).run with hsame | ⟨told, htold⟩
    · refine ⟨events, ?_⟩
      rw [after_cons, hevents, hsame]
    · refine ⟨(e.1, told) :: events, ?_⟩
      rw [after_cons, hevents, htold]
      rfl

/-! ## Conservation -/

def textsOf (stream : StreamKind) (chunks : List Chunk) : List Text :=
  (chunks.filter fun chunk => chunk.stream = stream).map Chunk.text

theorem textsOf_append (stream : StreamKind) (before later : List Chunk) :
    textsOf stream (before ++ later) = textsOf stream before ++ textsOf stream later := by
  rw [textsOf, List.filter_append, List.map_append]
  rfl

/-- All that a reader sends comes from its own stream. -/
theorem textsOf_map_mk (stream source : StreamKind) (texts : List Text) :
    textsOf stream (texts.map (Chunk.mk source)) = if source = stream then texts else [] := by
  by_cases h : source = stream
  · simp [textsOf, h, List.filter_map, Function.comp_def]
  · simp [textsOf, h, List.filter_map, Function.comp_def]

def Event.readOf (stream : StreamKind) : Event → List ReadOutcome
  | .read source outcome => if source = stream then [outcome] else []
  | _ => []

def readsOf (stream : StreamKind) (schedule : List (Instant × Event)) : List ReadOutcome :=
  schedule.flatMap fun e => e.2.readOf stream

/-- What a stream has given so far and will still give, if these are its reads to come. -/
def owed (w : Wiring) (stream : StreamKind) (reads : List ReadOutcome) : List Text :=
  textsOf stream w.run.heard.reverse ++ textsOf stream w.channel ++ (w.feeder stream).deliver reads

theorem readOf_aside {event : Event} {told : Run.Event} (htold : event.aside? = some told)
    (stream : StreamKind) : event.readOf stream = [] := by
  cases event with
  | read source outcome => cases htold
  | _ => rfl

theorem takes_aside {event : Event} {told : Run.Event} (htold : event.aside? = some told)
    (r : Run) : r.takes now told = [] := by
  cases event <;> cases htold <;> rfl

theorem heard_tell (w : Wiring) {told : Run.Event} (htakes : w.run.takes now told = []) :
    (w.tell now told).run.heard = w.run.heard := by
  rw [tell, Run.step_heard, htakes]
  rfl

theorem Transition.owed (hphase : w.run.outcome? = none) {event : Event} {w' : Wiring}
    (ht : Transition now w event w') (stream : StreamKind) (reads : List ReadOutcome) :
    w'.owed stream reads = w.owed stream (event.readOf stream ++ reads) := by
  cases ht with
  | idle hidle =>
    rcases hidle with hover | rfl
    · rw [hphase] at hover
      cases hover
    · rfl
  | @read source outcome =>
    -- what the read gives goes from the stream to the end of the channel
    by_cases hsource : source = stream
    · subst hsource
      simp only [Wiring.owed, Wiring.read, Event.readOf, textsOf_append, textsOf_map_mk, if_true,
        List.singleton_append, Feeder.deliver_cons, List.append_assoc]
    · have hother : ¬ stream = source := fun h => hsource h.symm
      simp only [Wiring.owed, Wiring.read, Event.readOf, textsOf_append, textsOf_map_mk, hsource,
        hother, if_false, List.append_nil, List.nil_append]
  | @received chunk rest hphase hopen hchannel =>
    -- the first chunk goes from the channel to the end of what the run has heard
    have htakes : w.run.takes now (.chunk chunk) = [(now, chunk)] := by
      simp [Run.takes, hphase, hopen]
    have hheard : (w.run.step now (.chunk chunk)).1.heard.reverse =
        w.run.heard.reverse ++ [chunk] := by
      rw [Run.step_heard, htakes]
      exact List.reverse_cons
    have hmoved : textsOf stream (w.run.heard.reverse ++ [chunk]) ++ textsOf stream rest =
        textsOf stream w.run.heard.reverse ++ textsOf stream w.channel := by
      rw [hchannel, ← textsOf_append, ← textsOf_append, List.append_assoc]
      rfl
    calc
      textsOf stream (w.run.step now (.chunk chunk)).1.heard.reverse ++ textsOf stream rest ++
            (w.feeder stream).deliver reads
          = textsOf stream (w.run.heard.reverse ++ [chunk]) ++ textsOf stream rest ++
              (w.feeder stream).deliver reads := by rw [hheard]
      _ = w.owed stream reads := by rw [hmoved, Wiring.owed]
  | closed =>
    have hheard : (w.tell now .streamsClosed).run.heard = w.run.heard := w.heard_tell rfl
    rw [Wiring.owed, hheard]
    rfl
  | @aside event told hphase htold =>
    have hheard : (w.tell now told).run.heard = w.run.heard :=
      w.heard_tell (takes_aside htold w.run)
    rw [Wiring.owed, hheard, readOf_aside htold]
    rfl

/-- What a stream has given and will still give does not change while the run goes on. -/
theorem step_owed (hphase : w.run.outcome? = none) (event : Event) (stream : StreamKind)
    (reads : List ReadOutcome) :
    (w.step now event).owed stream reads = w.owed stream (event.readOf stream ++ reads) :=
  (step_transition w now event).owed hphase stream reads

/-! ## The end of the streams -/

/-- When the run has learned that its streams are at their end, nothing is left anywhere. -/
def Sealed (w : Wiring) : Prop :=
  w.run.streamsOpen = false → w.channel = [] ∧ ∀ stream, w.feeder stream = .ended

end Wiring

namespace Run

theorem settle_streamsOpen (r : Run) : r.settle.streamsOpen = r.streamsOpen := by
  rcases settle_cases r with hsame | ⟨-, -, hover⟩
  · rw [hsame]
  · rw [hover]
    rfl

/-- Nothing else tells a run that its streams are at their end. -/
theorem step_streamsOpen (r : Run) (now : Instant) {event : Event} (h : event ≠ .streamsClosed) :
    (r.step now event).1.streamsOpen = r.streamsOpen := by
  rcases step_cases r now event with ⟨outcome, -, hstep⟩ | ⟨-, r', effects, ht, hstep⟩
  · rw [hstep]
  · rw [hstep, settle_streamsOpen]
    cases ht with
    | absorbed => exact absorb_streamsOpen r now _
    | absorbedLast => exact absorb_streamsOpen r now _
    | closed => exact absurd rfl h
    | _ => rfl

end Run

namespace Wiring

variable {w : Wiring} {now : Instant}

theorem sealed_new (invocation : Invocation) (options : RunOptions) :
    (new invocation options).Sealed :=
  fun hclosed => Bool.noConfusion hclosed

theorem Sealed.transition (h : w.Sealed) {event : Event} {w' : Wiring}
    (ht : Transition now w event w') : w'.Sealed := by
  cases ht with
  | idle => exact h
  | @read source outcome =>
    -- a reader that has made its last read gives nothing any more
    intro hclosed
    obtain ⟨hchannel, hended⟩ := h hclosed
    refine ⟨?_, ?_⟩
    · simp [Wiring.read, hchannel, hended, Feeder.read]
    · intro stream
      by_cases hsource : stream = source
      · simp [Wiring.read, hsource, hended, Feeder.read]
      · simp [Wiring.read, hsource, hended]
  | @received chunk rest hphase hopen hchannel =>
    intro hclosed
    have hother : Run.Event.chunk chunk ≠ .streamsClosed := by simp
    have hsame := w.run.step_streamsOpen now hother
    exact absurd (hclosed.symm.trans (hsame.trans hopen)) (by decide)
  | closed hchannel hended => exact fun _ => ⟨hchannel, hended⟩
  | @aside event told hphase htold =>
    intro hclosed
    have hother : told ≠ .streamsClosed := by
      intro hsame
      subst hsame
      cases event <;> cases htold
    have hsame := w.run.step_streamsOpen now hother
    exact h (hsame.symm.trans hclosed)

theorem Sealed.step (h : w.Sealed) (now : Instant) (event : Event) : (w.step now event).Sealed :=
  h.transition (step_transition w now event)

theorem streamsOpen_of_heardOut {r : Run} (h : r.heardOut = true) : r.streamsOpen = false := by
  have hboth : r.streamsOpen = false ∧ r.exit?.isSome = true := by simpa [Run.heardOut] using h
  exact hboth.1

/-- A run that has heard everything is owed nothing. -/
theorem Sealed.owed_of_heardOut (h : w.Sealed) (hheard : w.run.heardOut = true)
    (stream : StreamKind) (reads : List ReadOutcome) :
    w.owed stream reads = textsOf stream w.run.heard.reverse := by
  obtain ⟨hchannel, hended⟩ := h (streamsOpen_of_heardOut hheard)
  have hdeliver : (w.feeder stream).deliver reads = [] := by
    rw [hended]
    rfl
  rw [owed, hchannel, hdeliver]
  exact (List.append_nil _).trans (List.append_nil _)

theorem after_of_over (h : w.run.outcome?.isSome = true) (schedule : List (Instant × Event)) :
    w.after schedule = w := by
  induction schedule with
  | nil => rfl
  | cons e later ih =>
    have hsame : w.step e.1 e.2 = w := by simp [step, h]
    rw [after_cons, hsame]
    exact ih

/-- A run that has heard everything got all that it was owed, from each stream and in order. -/
theorem Sealed.textsOf_heard (h : w.Sealed) (schedule : List (Instant × Event))
    (hheard : (w.after schedule).run.heardOut = true) (stream : StreamKind) :
    textsOf stream (w.after schedule).run.heard.reverse =
      w.owed stream (readsOf stream schedule) := by
  induction schedule generalizing w with
  | nil => exact (h.owed_of_heardOut hheard stream _).symm
  | cons e later ih =>
    cases hphase : w.run.outcome? with
    | some outcome =>
      -- the run was over before, and reads that complete later count no more
      have hsame : w.after (e :: later) = w := after_of_over (by rw [hphase]; rfl) _
      rw [hsame] at hheard ⊢
      exact (h.owed_of_heardOut hheard stream _).symm
    | none =>
      have hlater := ih (h.step e.1 e.2) hheard
      exact hlater.trans (step_owed hphase e.2 stream _)

/-- A reader that has ended has made its last read. -/
theorem any_isLast_of_ended (w : Wiring) (schedule : List (Instant × Event)) {stream : StreamKind}
    (hended : (w.after schedule).feeder stream = .ended) :
    w.feeder stream = .ended ∨ (readsOf stream schedule).any ReadOutcome.isLast = true := by
  induction schedule generalizing w with
  | nil => exact .inl hended
  | cons e later ih =>
    have hreads : readsOf stream (e :: later) = e.2.readOf stream ++ readsOf stream later := rfl
    rw [hreads, List.any_append, Bool.or_eq_true]
    rcases ih (w.step e.1 e.2) hended with hnow | hlater
    · have ht := step_transition w e.1 e.2
      generalize w.step e.1 e.2 = w' at ht hnow
      generalize e.2 = event at ht
      cases ht with
      | @read source outcome =>
        by_cases hsource : stream = source
        · subst hsource
          cases hfeeder : w.feeder stream with
          | ended => exact .inl rfl
          | reading carry =>
            have hread : ((Feeder.reading carry).read outcome).2 = .ended := by
              simpa [Wiring.read, hfeeder] using hnow
            have hlast := (Feeder.read_eq_ended_iff carry outcome).1 hread
            exact .inr (.inl (by simp [Event.readOf, hlast]))
        · exact .inl (by simpa [Wiring.read, hsource] using hnow)
      | idle | received | closed | aside => exact .inl hnow
    · exact .inr (.inr hlater)

/-! ## All runs -/

/--
In every run the outcome has exactly the chunks that the run took in, in the order of their arrival,
whatever ends it; a run that has not heard everything ends as a failure without an address, by the
end of its time or by a dismissal.  The session is given each chunk once, and what it lets through
is shown once, as output of the stream the chunk came from.

However two readers, the channel and the run take turns: a run that has heard everything has got all
chunks of both readers, each of which has made its last read, and what it has of a stream is the
decoded text of all bytes up to the end of the stream or its first failing read.
-/
theorem delivered_after (invocation : Invocation) (options : RunOptions) :
    (∀ events : List (Instant × Run.Event),
      let start := Run.new invocation options
      let r := start.after events
      let chunks := start.taken events
      r.heard.reverse = chunks.map Prod.snd ∧
      r.output = (chunks.flatMap fun taken => taken.2.text) ∧
      (r.heardOut = true → r.outcome? = some r.finalOutcome) ∧
      (∀ outcome, r.outcome? = some outcome →
        outcome.output = r.output ∧
        (r.heardOut = true ∨
          outcome.success = false ∧ outcome.address? = none ∧
            (outcome.message = (RunError.timedOut r.invocation.timeout).message ∨
              outcome.message = RunError.cancelled.message))) ∧
      ∃ operations : List Session.Operation,
        r.session = (Session.new options.debounce).after operations ∧
        operations.filterMap Session.Operation.chunk? =
          (chunks.map fun taken => (taken.1, taken.2.text)) ∧
        (start.effects events).filterMap Run.Effect.shown? =
          Run.onShow (chunks.map Prod.snd) ((Session.new options.debounce).passed operations)) ∧
    ∀ schedule : List (Instant × Event),
      let w := (new invocation options).after schedule
      (∃ events, w.run = (Run.new invocation options).after events) ∧
      (w.run.heardOut = true → ∀ stream,
        let reads := readsOf stream schedule
        textsOf stream w.run.heard.reverse = (Reader.deliver true none reads).1 ∧
        (textsOf stream w.run.heard.reverse).flatten = Utf8.lossy (Reader.received reads) ∧
        reads.any ReadOutcome.isLast = true) := by
  refine ⟨?_, ?_⟩
  · intro events start r chunks
    have hheard : r.heard.reverse = chunks.map Prod.snd := Run.after_heard start events
    have hclosing : r.Closing := Run.closing_after invocation options events
    have hconcluded : r.Concluded := Run.concluded_after invocation options events
    refine ⟨hheard, ?_, ?_, ?_, Run.exists_operations start events⟩
    · rw [Run.output, hheard, List.flatMap_map]
    · intro hall
      exact Run.outcome?_of_over (hclosing.finished hall)
    · intro outcome houtcome
      have hphase : r.phase = .over outcome := by
        cases hp : r.phase <;> simp_all [Run.outcome?]
      -- a run ends by itself when it has heard all; else its time is up, or it was cancelled
      rcases hconcluded outcome hphase with ⟨hall, rfl⟩ | ⟨-, rfl | rfl⟩
      · exact ⟨rfl, .inl hall⟩
      · exact ⟨rfl, .inr ⟨rfl, rfl, .inl rfl⟩⟩
      · exact ⟨rfl, .inr ⟨rfl, rfl, .inr rfl⟩⟩
  · intro schedule w
    refine ⟨exists_events (new invocation options) schedule, ?_⟩
    intro hall stream reads
    -- the run has heard that the channel is closed, so both readers are at their end
    have hsealed : w.Sealed :=
      after_induction (sealed_new invocation options) (fun _ now event h => h.step now event)
        schedule
    have htexts : textsOf stream w.run.heard.reverse = (Feeder.reading none).deliver reads :=
      (sealed_new invocation options).textsOf_heard schedule hall stream
    have hended := (hsealed (streamsOpen_of_heardOut hall)).2 stream
    refine ⟨htexts, ?_, ?_⟩
    · rw [htexts]
      exact Reader.flatten_deliver reads
    · rcases any_isLast_of_ended (new invocation options) schedule hended with hnew | hlast
      · cases hnew
      · exact hlast

end Wiring
end ContractAssist
