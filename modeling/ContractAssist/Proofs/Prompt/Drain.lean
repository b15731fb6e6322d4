import ContractAssist.Proofs.Prompt.Pending

/-!
# Drain — every pending question is handed out, once and in order

While no output arrives, nothing is added to the pending questions, and they leave in order:

1. `Sound.pending_eq_handOuts_append` is the conservation law of such a stretch: what was pending
   has been handed out or is pending still;
2. `Session.Drains` are the stretches that ask for each question in turn and deal with it, each time
   late enough for its text to have settled;
3. `drained_after`: after any run, a chunk that is reported leaves its questions pending, and a
   drain hands out whatever is pending, with its latest text, and leaves nothing behind.
-/

namespace ContractAssist

def Prompt.handedOut (p : Prompt) : Prompt :=
  { p with handled := true }

@[simp] theorem Prompt.category_handedOut (p : Prompt) : p.handedOut.category = p.category := rfl

namespace Session

/-! ## Without output -/

/-- Neither output nor the end: a question is asked for, or was dealt with. -/
def Operation.isQuiet : Operation → Bool
  | .takeReady _ => true
  | .finishResolution _ => true
  | _ => false

variable {s : Session}

theorem Sound.pending_eq_handedOut_append (h : s.Sound) {op : Operation} (hop : op.isQuiet = true) :
    s.pending.map Prompt.handedOut =
      (s.handedOut? op).toList ++ (s.perform op).pending.map Prompt.handedOut := by
  cases op with
  | observe chunk now => cases hop
  | markDone => cases hop
  | finishResolution now =>
    have hpending : (s.perform (.finishResolution now)).pending = s.pending :=
      h.finishResolution_pending now
    rw [hpending]
    rfl
  | takeReady now =>
    rcases takeReady_pending s now with htake | ⟨p, hpending, hp⟩
    · simp [handedOut?, Session.perform, htake]
    · rw [hpending, handedOut?, hp]
      rfl

/-- Without output, what was pending has been handed out or is pending still. -/
theorem Sound.pending_eq_handOuts_append (h : s.Sound) {operations : List Operation}
    (hquiet : ∀ op ∈ operations, op.isQuiet = true) :
    s.pending.map Prompt.handedOut =
      s.handOuts operations ++ (s.after operations).pending.map Prompt.handedOut := by
  induction operations generalizing s with
  | nil => rfl
  | cons op r ih =>
    have hop := h.pending_eq_handedOut_append (hquiet op List.mem_cons_self)
    have hr := ih (h.perform op) fun op' hop' => hquiet op' (List.mem_cons_of_mem op hop')
    rw [hop, hr, handOuts, after_cons, List.append_assoc]

/-! ## Rounds -/

def round (instants : Instant × Instant) : List Operation :=
  [.takeReady instants.1, .finishResolution instants.2]

/-- A stretch of rounds; a question that is being answered is dealt with first. -/
def draining (s : Session) (first : Instant) (rounds : List (Instant × Instant)) :
    List Operation :=
  (if s.isResolving then [.finishResolution first] else []) ++ rounds.flatMap round

def isTimely (s : Session) : Operation → Bool
  | .takeReady now => s.nextDeadline?.all now.reached
  | _ => true

/-- All along a run, questions are asked for only when their text has settled. -/
def Timely (s : Session) : List Operation → Prop
  | [] => True
  | op :: r => s.isTimely op = true ∧ (s.perform op).Timely r

instance decidableTimely (s : Session) : (operations : List Operation) →
    Decidable (s.Timely operations)
  | [] => isTrue trivial
  | op :: r =>
    have := decidableTimely (s.perform op) r
    inferInstanceAs (Decidable (s.isTimely op = true ∧ (s.perform op).Timely r))

/-- A timely stretch with a round for each pending question, or with more. -/
def Drains (s : Session) (drain : List Operation) : Prop :=
  ∃ first rounds, drain = s.draining first rounds ∧ s.Timely drain ∧
    s.pending.length ≤ rounds.length

theorem isQuiet_of_mem_draining {first : Instant} {rounds : List (Instant × Instant)}
    {op : Operation} (hop : op ∈ s.draining first rounds) : op.isQuiet = true := by
  rcases List.mem_append.1 hop with hop | hop
  · split at hop
    · rw [List.mem_singleton.1 hop]
      rfl
    · exact absurd hop List.not_mem_nil
  · obtain ⟨instants, -, hop⟩ := List.mem_flatMap.1 hop
    have hcases : op = .takeReady instants.1 ∨ op = .finishResolution instants.2 := by
      simpa [round] using hop
    rcases hcases with rfl | rfl <;> rfl

theorem Drains.isQuiet {drain : List Operation} (h : s.Drains drain) :
    ∀ op ∈ drain, op.isQuiet = true := by
  obtain ⟨first, rounds, rfl, -, -⟩ := h
  exact fun op hop => isQuiet_of_mem_draining hop

theorem timely_append {before later : List Operation} :
    s.Timely (before ++ later) ↔ s.Timely before ∧ (s.after before).Timely later := by
  induction before generalizing s with
  | nil => simp [Timely]
  | cons op r ih => simp [Timely, ih, and_assoc]

theorem finishResolution_isResolving (s : Session) (now : Instant) :
    (s.finishResolution now).isResolving = false := by
  cases hresolving : s.isResolving with
  | false => simp [finishResolution, hresolving]
  | true =>
    simp only [finishResolution, hresolving, if_true]
    split <;> rfl

/-- Between two questions: none is being answered, and questions are still handled. -/
structure Listening (s : Session) : Prop where
  resolving : s.isResolving = false
  done : s.isDone = false

theorem Listening.idle_of_pending (h : s.Listening) (hpending : s.pending = []) :
    s.state = .idle := by
  cases hstate : s.state with
  | idle => rfl
  | awaiting prompt readyAt => simp [pending, current_awaiting hstate] at hpending
  | resolving kind => simpa [isResolving, hstate] using h.resolving
  | done => simpa [isDone, hstate] using h.done

/-- A timely round hands out the first pending question. -/
theorem Listening.round (h : s.Listening) (hs : s.Sound) {instants : Instant × Instant}
    (htimely : s.Timely (round instants)) :
    (s.after (Session.round instants)).Listening ∧
      (s.after (Session.round instants)).pending = s.pending.tail := by
  obtain ⟨ask, deal⟩ := instants
  have hafter : s.after (Session.round (ask, deal)) =
      (s.takeReady ask).1.finishResolution deal := rfl
  rw [hafter]
  refine ⟨⟨finishResolution_isResolving _ _, ?_⟩, ?_⟩
  · rw [finishResolution_isDone, takeReady_isDone]
    exact h.done
  · rw [(hs.takeReady ask).finishResolution_pending]
    rcases takeReady_pending s ask with htake | ⟨p, hpending, -⟩
    · -- the question has settled, so there is none
      have hnone : s.pending = [] := by
        cases hstate : s.state with
        | awaiting prompt readyAt =>
          have hready : ask.reached readyAt = true := by
            simpa [isTimely, nextDeadline?, hstate] using htimely.1
          simp [takeReady, hstate, hready] at htake
        | idle => exact hs.pending_of_idle hstate
        | resolving kind => simpa [isResolving, hstate] using h.resolving
        | done => simpa [isDone, hstate] using h.done
      simp [htake, hnone]
    · simp [hpending]

theorem Listening.rounds (h : s.Listening) (hs : s.Sound) {rounds : List (Instant × Instant)}
    (htimely : s.Timely (rounds.flatMap Session.round)) :
    (s.after (rounds.flatMap Session.round)).Listening ∧
      (s.after (rounds.flatMap Session.round)).pending = s.pending.drop rounds.length := by
  induction rounds generalizing s with
  | nil => exact ⟨h, rfl⟩
  | cons instants r ih =>
    rw [List.flatMap_cons, timely_append] at htimely
    obtain ⟨hlistening, hpending⟩ := h.round hs htimely.1
    have hsound : (s.after (Session.round instants)).Sound :=
      after_induction hs (fun _ op hs' => hs'.perform op) _
    obtain ⟨hlast, hrest⟩ := ih hlistening hsound htimely.2
    rw [List.flatMap_cons, after_append]
    refine ⟨hlast, ?_⟩
    rw [hrest, hpending, List.drop_tail, List.length_cons]

/-! ## Drains -/

/-- A drain leaves nothing behind. -/
theorem Drains.pending_after {drain : List Operation} (h : s.Drains drain) (hs : s.Sound)
    (hdone : s.isDone = false) :
    (s.after drain).Listening ∧ (s.after drain).pending = [] := by
  obtain ⟨first, rounds, rfl, htimely, hlength⟩ := h
  rw [draining, timely_append] at htimely
  rw [draining, after_append]
  -- whatever is being answered is dealt with first, and that leaves everything pending
  have hstart : (s.after (if s.isResolving then [.finishResolution first] else [])).Listening ∧
      (s.after (if s.isResolving then [.finishResolution first] else [])).Sound ∧
      (s.after (if s.isResolving then [.finishResolution first] else [])).pending = s.pending := by
    split
    · refine ⟨⟨finishResolution_isResolving s first, ?_⟩, hs.finishResolution first,
        hs.finishResolution_pending first⟩
      exact (finishResolution_isDone s first).trans hdone
    · rename_i hresolving
      exact ⟨⟨by simpa using hresolving, hdone⟩, hs, rfl⟩
  obtain ⟨hlistening, hsound, hpending⟩ := hstart
  obtain ⟨hlast, hrest⟩ := hlistening.rounds hsound htimely.2
  exact ⟨hlast, by rw [hrest, hpending, List.drop_eq_nil_of_le hlength]⟩

/-- A drain hands out all that is pending, first come first, and ends with nothing to do. -/
theorem Drains.handOuts {drain : List Operation} (h : s.Drains drain) (hs : s.Sound)
    (hdone : s.isDone = false) :
    s.handOuts drain = s.pending.map Prompt.handedOut ∧ (s.after drain).state = .idle ∧
      (s.after drain).queue = [] := by
  obtain ⟨hlistening, hpending⟩ := h.pending_after hs hdone
  have hconserved := hs.pending_eq_handOuts_append h.isQuiet
  rw [hpending, List.map_nil, List.append_nil] at hconserved
  exact ⟨hconserved.symm, hlistening.idle_of_pending hpending,
    (List.append_eq_nil_iff.1 hpending).2⟩

theorem exists_timely_rounds (s : Session) (n : Nat) :
    ∃ rounds : List (Instant × Instant), rounds.length = n ∧ s.Timely (rounds.flatMap round) := by
  induction n generalizing s with
  | zero => exact ⟨[], rfl, trivial⟩
  | succ n ih =>
    -- the question is asked for just when its text has settled
    let instants : Instant × Instant := (s.nextDeadline?.getD ⟨0⟩, ⟨0⟩)
    have hfirst : s.Timely (round instants) := by
      refine ⟨?_, rfl, trivial⟩
      cases hdue : s.nextDeadline? <;> simp [isTimely, instants, hdue, Instant.reached]
    obtain ⟨rounds, hlength, hrest⟩ := ih (s.after (round instants))
    refine ⟨instants :: rounds, by rw [List.length_cons, hlength], ?_⟩
    rw [List.flatMap_cons, timely_append]
    exact ⟨hfirst, hrest⟩

theorem exists_drains (s : Session) : ∃ drain, s.Drains drain := by
  let start : List Operation := if s.isResolving then [.finishResolution ⟨0⟩] else []
  obtain ⟨rounds, hlength, hrounds⟩ := exists_timely_rounds (s.after start) s.pending.length
  refine ⟨s.draining ⟨0⟩ rounds, ⟨0⟩, rounds, rfl, ?_, Nat.le_of_eq hlength.symm⟩
  have hstart : s.Timely start := by
    simp only [start]
    split
    · exact ⟨rfl, trivial⟩
    · trivial
  exact timely_append.2 ⟨hstart, hrounds⟩

/-! ## After any run -/

theorem upToDate_after (debounce : Duration) (operations : List Operation) :
    ((new debounce).after operations).UpToDate ((new debounce).raisedIn operations) := by
  have hnew : (new debounce).UpToDate [] := fun p hp => absurd hp List.not_mem_nil
  exact hnew.after (sound_new debounce) operations

/--
A chunk is reported exactly when it raises a question, and each question it raises leaves one of its
category pending.  What is pending is the latest of its category, and is handed out by any drain,
first come first; a drain is always possible, and ends with nothing to do.
-/
theorem drained_after (debounce : Duration) (operations : List Operation) :
    let s := (new debounce).after operations
    (∀ chunk now, ((s.observe chunk now).2.prompt = true ↔ s.raised chunk now ≠ []) ∧
      ∀ p ∈ s.raised chunk now,
        ∃ q ∈ (s.observe chunk now).1.pending, q.category = p.category) ∧
    (s.pending.map Prompt.category).Nodup ∧
    (∀ p ∈ s.pending, latest? p.category ((new debounce).raisedIn operations) = some p) ∧
    (s.isDone = false → (∃ drain, s.Drains drain) ∧
      ∀ drain, s.Drains drain →
        s.handOuts drain = s.pending.map Prompt.handedOut ∧ (s.after drain).state = .idle ∧
          (s.after drain).queue = []) := by
  intro s
  have hsound : s.Sound := sound_after debounce operations
  refine ⟨?_, hsound.categories, upToDate_after debounce operations, ?_⟩
  · intro chunk now
    exact ⟨observe_prompt_iff s chunk now, fun p hp => hsound.pending_of_raised hp⟩
  · intro hdone
    exact ⟨exists_drains s, fun drain hdrain => hdrain.handOuts hsound hdone⟩

end Session
end ContractAssist
