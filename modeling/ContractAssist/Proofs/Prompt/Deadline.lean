import ContractAssist.Proofs.Prompt.Drain

/-!
# Deadline — when the text of a question has settled

The current question has a deadline.  Each line that asks it sets the deadline anew, a line that
asks something else leaves it alone, and a question that waited for its turn is due at once.  So
whoever knows what was asked, and when, knows the deadline:

1. `Session.DueAt` says what the deadline is, if a question of some category is the current one;
   what a line does to it is said by `readLine_dueAt` and `DueAt.readLine`;
2. `DueAt.after`: while no line asks a question of the category, its deadline stays, or the question
   is promoted from the queue;
3. `LastAsked` finds the chunk that asked a pending question last;
4. `settled_after` says of every hand-out what its deadline was counted from.
-/

namespace ContractAssist

namespace Instant

theorem reached_iff {i j : Instant} : i.reached j = true ↔ j.nanos ≤ i.nanos := by
  simp [reached]

theorem nanos_afterOrSame {i : Instant} {d : Duration} (h : i.nanos + d.nanos < limit) :
    (i.afterOrSame d).nanos = i.nanos + d.nanos := by
  simp [afterOrSame, after?, h]

end Instant

namespace Session

variable {s : Session} {c : PromptCategory} {due now : Instant}

/-! ## How long a text may grow -/

theorem register_debounce (s : Session) (kind : PromptKind) (line : Text) (now : Instant) :
    (s.register kind line now).1.debounce = s.debounce := by
  rcases register_cases s kind line now with
    ⟨-, hreg⟩ | ⟨-, -, hreg⟩ | ⟨current, readyAt, -, -, -, hreg⟩ | ⟨-, -, -, -, hreg⟩ <;> rw [hreg]

theorem noticed_debounce (s : Session) (news : Bool) (line : Text) :
    (s.noticed news line).debounce = s.debounce :=
  noticed_induction (P := fun s' => s'.debounce = s.debounce) rfl rfl news line

theorem readLine_debounce (s : Session) (now : Instant) (news : Bool) (line : Text) :
    (s.readLine now news line).1.debounce = s.debounce :=
  readLine_induction (P := fun s' => s'.debounce = s.debounce) (fun _ hs => hs)
    (fun s' kind line _ hs => (register_debounce s' kind line now).trans hs) rfl news line

theorem perform_debounce (s : Session) (op : Operation) : (s.perform op).debounce = s.debounce := by
  cases op with
  | observe chunk now =>
    exact observe_induction (P := fun s' => s'.debounce = s.debounce) (fun _ hs => hs)
      (fun s' kind line _ hs => (register_debounce s' kind line now).trans hs) (fun _ _ hs => hs)
      rfl chunk
  | takeReady now =>
    rcases takeReady_cases s now with htake | ⟨prompt, readyAt, -, -, htake⟩ <;>
      rw [perform, htake]
  | finishResolution now =>
    rcases finishResolution_cases s now with hsame | ⟨state, queue, -, -, hfinish⟩
    · rw [perform, hsame]
    · rw [perform, hfinish]
  | markDone => rfl

theorem after_debounce (s : Session) (operations : List Operation) :
    (s.after operations).debounce = s.debounce :=
  after_induction (P := fun s' => s'.debounce = s.debounce) rfl
    (fun s' op hs => (perform_debounce s' op).trans hs) operations

/-! ## What a line does to a deadline -/

/-- If a question of the category is the current one, it is ready at `due`. -/
def DueAt (s : Session) (c : PromptCategory) (due : Instant) : Prop :=
  ∀ p readyAt, s.state = .awaiting p readyAt → p.category = c → readyAt = due

theorem DueAt.of_state {s' : Session} (h : s.DueAt c due) (hstate : s'.state = s.state) :
    s'.DueAt c due := by
  intro p readyAt hawaiting
  exact h p readyAt (hstate.symm.trans hawaiting)

theorem dueAt_of_ne (h : ∀ p readyAt, s.state = .awaiting p readyAt → p.category ≠ c) :
    s.DueAt c due := by
  intro p readyAt hawaiting hc
  exact absurd hc (h p readyAt hawaiting)

/-- A question that is noted has all its time before it, unless it has to wait for its turn. -/
theorem register_dueAt {kind : PromptKind} {line : Text}
    (h : (s.register kind line now).2 = true) :
    (s.register kind line now).1.DueAt kind.category (now.afterOrSame s.debounce) := by
  rcases register_cases s kind line now with
    ⟨-, hreg⟩ | ⟨-, -, hreg⟩ | ⟨current, readyAt, -, -, -, hreg⟩ | ⟨-, -, -, hother, hreg⟩
  · simp [hreg] at h
  · rw [hreg]
    rintro p readyAt ⟨rfl, rfl⟩ -
    rfl
  · rw [hreg]
    rintro p readyAt ⟨rfl, rfl⟩ -
    rfl
  · -- the current question is of another category
    rw [hreg]
    apply dueAt_of_ne
    intro p readyAt hawaiting
    have hcurrent : s.current = [p] := current_awaiting hawaiting
    exact hother p (by simp [hcurrent])

/-- A question of another category does not touch the deadline. -/
theorem DueAt.register (h : s.DueAt c due) {kind : PromptKind} (hkind : kind.category ≠ c)
    (line : Text) (now : Instant) : (s.register kind line now).1.DueAt c due := by
  rcases register_cases s kind line now with
    ⟨-, hreg⟩ | ⟨-, -, hreg⟩ | ⟨current, readyAt, -, -, -, hreg⟩ | ⟨-, -, -, -, hreg⟩
  · rw [hreg]
    exact h
  · rw [hreg]
    apply dueAt_of_ne
    rintro p readyAt ⟨rfl, rfl⟩
    exact hkind
  · rw [hreg]
    apply dueAt_of_ne
    rintro p readyAt ⟨rfl, rfl⟩
    exact hkind
  · rw [hreg]
    exact h.of_state rfl

/-- The line that raises a question starts its time, unless the question has to wait. -/
theorem readLine_dueAt {l : Bool × Text} {p : Prompt} (hp : p ∈ s.raisedOnLine now l) :
    (s.readLine now l.1 l.2).1.DueAt p.category (now.afterOrSame s.debounce) := by
  rcases raisedOnLine_cases s now l with ⟨-, hraised⟩ | ⟨kind, hkind, hasked, hraised⟩
  · simp [hraised] at hp
  · have hread := readLine_eq s now l.1 l.2
    simp only [hkind] at hread
    rw [hraised, List.mem_singleton] at hp
    rw [hread] at hasked ⊢
    rw [hp, ← noticed_debounce s l.1 l.2]
    exact register_dueAt hasked

/-- A line that raises no question of the category does not touch the deadline. -/
theorem DueAt.readLine (h : s.DueAt c due) {l : Bool × Text}
    (hother : ∀ p ∈ s.raisedOnLine now l, p.category ≠ c) :
    (s.readLine now l.1 l.2).1.DueAt c due := by
  have hnoticed : (s.noticed l.1 l.2).DueAt c due := h.of_state (noticed_state s l.1 l.2)
  rcases readLine_cases s now l.1 l.2 with hread | ⟨kind, hkind, hread⟩
  · rw [hread]
    exact hnoticed
  · by_cases hc : kind.category = c
    · -- the line asks in vain, or it would raise a question of the category
      rcases raisedOnLine_cases s now l with ⟨hasked, -⟩ | ⟨kind', hkind', -, hraised⟩
      · rw [hread] at hasked ⊢
        rcases register_cases (s.noticed l.1 l.2) kind l.2 now with
          ⟨-, hreg⟩ | ⟨-, -, hreg⟩ | ⟨current, readyAt, -, -, -, hreg⟩ | ⟨-, -, -, -, hreg⟩
        · rw [hreg]
          exact hnoticed
        all_goals simp [hreg] at hasked
      · obtain rfl : kind = kind' := Option.some.inj (hkind.symm.trans hkind')
        exact absurd hc (hother (.fresh kind l.2) (by simp [hraised]))
    · rw [hread]
      exact hnoticed.register hc l.2 now

/-! ## What a chunk does to a deadline -/

theorem DueAt.readLines (h : s.DueAt c due) {lines : List (Bool × Text)}
    (hother : ∀ p ∈ s.raisedOnLines now lines, p.category ≠ c) :
    (s.readLines now lines).DueAt c due := by
  induction lines generalizing s with
  | nil => exact h
  | cons l r ih =>
    have hfirst := h.readLine fun p hp => hother p (List.mem_append_left _ hp)
    exact ih hfirst fun p hp => hother p (List.mem_append_right _ hp)

/-- The last line that raises a question of the category starts its time. -/
theorem readLines_dueAt {lines : List (Bool × Text)}
    (h : ∃ p ∈ s.raisedOnLines now lines, p.category = c) :
    (s.readLines now lines).DueAt c (now.afterOrSame s.debounce) := by
  induction lines generalizing s with
  | nil =>
    obtain ⟨p, hp, -⟩ := h
    exact absurd hp List.not_mem_nil
  | cons l r ih =>
    let s' := (s.readLine now l.1 l.2).1
    by_cases hlater : ∃ p ∈ s'.raisedOnLines now r, p.category = c
    · have hrest := ih hlater
      rw [readLine_debounce] at hrest
      exact hrest
    · have hother : ∀ p ∈ s'.raisedOnLines now r, p.category ≠ c :=
        fun p hp hc => hlater ⟨p, hp, hc⟩
      obtain ⟨p, hp, rfl⟩ := h
      rcases List.mem_append.1 hp with hp | hp
      · exact (readLine_dueAt hp).readLines hother
      · exact absurd rfl (hother p hp)

theorem DueAt.observe (h : s.DueAt c due) {chunk : Text}
    (hother : ∀ p ∈ s.raised chunk now, p.category ≠ c) :
    (s.observe chunk now).1.DueAt c due := by
  cases hdone : s.isDone with
  | true =>
    rw [observe_done hdone]
    exact h
  | false =>
    rw [observe_fst hdone]
    have hlines : (s.readLines now (s.linesRead chunk)).DueAt c due :=
      h.readLines (by simpa [raised, hdone] using hother)
    exact hlines.of_state rfl

theorem observe_dueAt {chunk : Text} {p : Prompt} (hp : p ∈ s.raised chunk now) :
    (s.observe chunk now).1.DueAt p.category (now.afterOrSame s.debounce) := by
  cases hdone : s.isDone with
  | true => simp [raised, hdone] at hp
  | false =>
    rw [observe_fst hdone]
    have hlines : (s.readLines now (s.linesRead chunk)).DueAt p.category
        (now.afterOrSame s.debounce) :=
      readLines_dueAt ⟨p, by simpa [raised, hdone] using hp, rfl⟩
    exact hlines.of_state rfl

/-! ## What a run does to a deadline -/

/-- A question that waits for its turn becomes the current one, since another one was dealt with. -/
structure Promotes (s : Session) (p : Prompt) (now : Instant) : Prop where
  resolving : s.isResolving = true
  waiting : p ∈ s.queue
  promoted : (s.finishResolution now).state = .awaiting p now

theorem Promotes.dueAt {p : Prompt} (h : s.Promotes p now) :
    (s.finishResolution now).DueAt p.category now := by
  intro q readyAt hawaiting _
  have hsame : SessionState.awaiting p now = .awaiting q readyAt := h.promoted.symm.trans hawaiting
  cases hsame
  rfl

/-- To deal with a question does nothing, or leaves nothing to do, or promotes the next one. -/
theorem Sound.finishResolution_promotes (h : s.Sound) (now : Instant) :
    s.finishResolution now = s ∨ (s.finishResolution now).state = .idle ∨
      ∃ p, s.Promotes p now := by
  cases hresolving : s.isResolving with
  | false => exact .inl (by simp [Session.finishResolution, hresolving])
  | true =>
    have hfinish := h.finishResolution_eq hresolving now
    cases hqueue : s.queue with
    | nil => exact .inr (.inl (by simp [hfinish, hqueue]))
    | cons p r => exact .inr (.inr ⟨p, hresolving, by simp [hqueue], by simp [hfinish, hqueue]⟩)

/-- An operation that raises no question of the category leaves its deadline, or promotes one. -/
theorem DueAt.perform (h : s.DueAt c due) (hs : s.Sound) {op : Operation}
    (hother : ∀ p ∈ s.raisedBy op, p.category ≠ c) :
    (s.perform op).DueAt c due ∨
      ∃ p promoted, op = .finishResolution promoted ∧ s.Promotes p promoted ∧ p.category = c := by
  cases op with
  | observe chunk now => exact .inl (h.observe hother)
  | takeReady now =>
    left
    rcases takeReady_cases s now with htake | ⟨prompt, readyAt, -, -, htake⟩
    · rw [Session.perform, htake]
      exact h
    · rw [Session.perform, htake]
      exact dueAt_of_ne (by simp)
  | finishResolution now =>
    rcases hs.finishResolution_promotes now with hsame | hidle | ⟨p, hpromotes⟩
    · left
      rw [Session.perform, hsame]
      exact h
    · left
      rw [Session.perform]
      exact dueAt_of_ne (by simp [hidle])
    · by_cases hc : p.category = c
      · exact .inr ⟨p, now, rfl, hpromotes, hc⟩
      · left
        apply dueAt_of_ne
        intro q readyAt hawaiting
        have hsame : SessionState.awaiting p now = .awaiting q readyAt :=
          hpromotes.promoted.symm.trans hawaiting
        cases hsame
        exact hc
  | markDone => exact .inl (dueAt_of_ne (by simp [Session.perform, Session.markDone]))

/-- While no question of the category is raised, the deadline of the current one stays what it was,
or the question is promoted. -/
theorem DueAt.after (h : s.DueAt c due) (hs : s.Sound) {operations : List Operation}
    (hother : ∀ p ∈ s.raisedIn operations, p.category ≠ c) {p : Prompt} {readyAt : Instant}
    (hstate : (s.after operations).state = .awaiting p readyAt) (hc : p.category = c) :
    readyAt = due ∨
      ∃ early q late, operations = early ++ .finishResolution readyAt :: late ∧
        (s.after early).Promotes q readyAt ∧ q.category = c := by
  induction operations generalizing s due with
  | nil => exact .inl (h p readyAt hstate hc)
  | cons op r ih =>
    have hfirst := h.perform hs fun p hp => hother p (List.mem_append_left _ hp)
    have hrest : ∀ p ∈ (s.perform op).raisedIn r, p.category ≠ c :=
      fun p hp => hother p (List.mem_append_right _ hp)
    rcases hfirst with hkept | ⟨q, promoted, rfl, hpromotes, hq⟩
    · rcases ih hkept (hs.perform op) hrest hstate with hdue | ⟨early, q, late, rfl, hlater⟩
      · exact .inl hdue
      · exact .inr ⟨op :: early, q, late, rfl, hlater⟩
    · -- the question is promoted here, or once more later on
      right
      rcases ih (hq ▸ hpromotes.dueAt) (hs.perform _) hrest hstate with
        rfl | ⟨early, q', late, rfl, hlater⟩
      · exact ⟨[], q, r, rfl, hpromotes, hq⟩
      · exact ⟨.finishResolution promoted :: early, q', late, rfl, hlater⟩

/-! ## Since when a question is pending -/

theorem Sound.mem_pending_readLines (h : s.Sound) {lines : List (Bool × Text)} {p : Prompt}
    (hp : p ∈ (s.readLines now lines).pending) :
    p ∈ s.pending ∨ p ∈ s.raisedOnLines now lines := by
  induction lines generalizing s with
  | nil => exact .inl hp
  | cons l r ih =>
    rw [raisedOnLines, List.mem_append]
    rcases ih (h.readLine now l) hp with hp | hp
    · rcases h.readLine_pending now l with ⟨-, hpending⟩ | ⟨q, hraised, hplaced⟩
      · exact .inl (hpending ▸ hp)
      · rcases (hplaced p).1 hp with rfl | ⟨hold, -⟩
        · exact .inr (.inl (by simp [hraised]))
        · exact .inl hold
    · exact .inr (.inr hp)

/-- What is pending after an operation was pending before, or is raised by it. -/
theorem Sound.mem_pending_perform (h : s.Sound) {op : Operation} {p : Prompt}
    (hp : p ∈ (s.perform op).pending) : p ∈ s.pending ∨ p ∈ s.raisedBy op := by
  cases op with
  | observe chunk now =>
    cases hdone : s.isDone with
    | true =>
      rw [Session.perform, observe_done hdone] at hp
      exact .inl hp
    | false =>
      rw [Session.perform, observe_fst hdone] at hp
      simpa [raisedBy, raised, hdone] using h.mem_pending_readLines hp
  | takeReady now =>
    left
    rcases takeReady_pending s now with htake | ⟨q, hpending, -⟩
    · rwa [Session.perform, htake] at hp
    · rw [hpending]
      exact List.mem_cons_of_mem q hp
  | finishResolution now =>
    rw [Session.perform, h.finishResolution_pending] at hp
    exact .inl hp
  | markDone => exact absurd hp List.not_mem_nil

theorem Sound.mem_pending_after (h : s.Sound) {operations : List Operation} {p : Prompt}
    (hp : p ∈ (s.after operations).pending) : p ∈ s.pending ∨ p ∈ s.raisedIn operations := by
  induction operations generalizing s with
  | nil => exact .inl hp
  | cons op r ih =>
    rw [raisedIn, List.mem_append]
    rcases ih (h.perform op) hp with hp | hp
    · exact (h.mem_pending_perform hp).imp id .inl
    · exact .inr (.inr hp)

/-- The latest question of a category was raised by some chunk, and nothing after it. -/
theorem exists_observe_of_latest {operations : List Operation} {p : Prompt}
    (h : latest? c (s.raisedIn operations) = some p) :
    ∃ before chunk asked later, operations = before ++ .observe chunk asked :: later ∧
      latest? c ((s.after before).raised chunk asked) = some p ∧
      latest? c ((s.after (before ++ [.observe chunk asked])).raisedIn later) = none := by
  induction operations generalizing s with
  | nil => cases h
  | cons op r ih =>
    rw [raisedIn, latest?_append] at h
    cases hlater : latest? c ((s.perform op).raisedIn r) with
    | some q =>
      have hq : q = p := by simpa [hlater] using h
      obtain ⟨before, chunk, asked, later, rfl, hrest⟩ := ih (hq ▸ hlater)
      exact ⟨op :: before, chunk, asked, later, rfl, hrest⟩
    | none =>
      rw [hlater, Option.none_or] at h
      cases op with
      | observe chunk asked => exact ⟨[], chunk, asked, r, rfl, h, hlater⟩
      | takeReady now => cases h
      | finishResolution now => cases h
      | markDone => cases h

theorem latest?_eq_none_iff {prompts : List Prompt} :
    latest? c prompts = none ↔ ∀ p ∈ prompts, p.category ≠ c := by
  simp [latest?]

theorem mem_of_latest? {prompts : List Prompt} {p : Prompt} (h : latest? c prompts = some p) :
    p ∈ prompts := by
  rw [latest?] at h
  exact List.mem_reverse.1 (List.mem_of_find?_eq_some h)

/-- After `before`, the chunk asks the question at the instant `asked`; no line of its category
comes after that, and it is pending until the end. -/
structure LastAsked (s : Session) (p : Prompt) (before : List Operation) (chunk : Text)
    (asked : Instant) (later : List Operation) : Prop where
  -- no question of the category comes behind it in the chunk
  raised : latest? p.category ((s.after before).raised chunk asked) = some p
  -- nothing later raises a question of the category
  unraised : ∀ q ∈ (s.after (before ++ [.observe chunk asked])).raisedIn later,
    q.category ≠ p.category
  -- it waits, or is the current one, all the time
  pending : ∀ early late, later = early ++ late →
    p ∈ (s.after (before ++ .observe chunk asked :: early)).pending

/-- Each pending question was asked last by some chunk. -/
theorem exists_lastAsked {debounce : Duration} {operations : List Operation} {p : Prompt}
    (hp : p ∈ ((new debounce).after operations).pending) :
    ∃ before chunk asked later, operations = before ++ .observe chunk asked :: later ∧
      (new debounce).LastAsked p before chunk asked later := by
  have hlatest := upToDate_after debounce operations p hp
  obtain ⟨before, chunk, asked, later, rfl, hraised, hnone⟩ := exists_observe_of_latest hlatest
  refine ⟨before, chunk, asked, later, rfl, hraised, latest?_eq_none_iff.1 hnone, ?_⟩
  -- what is pending at the end and not raised since, has been pending all the time
  rintro early late rfl
  have hsound := sound_after debounce (before ++ .observe chunk asked :: early)
  have hsplit : (new debounce).after (before ++ .observe chunk asked :: (early ++ late)) =
      ((new debounce).after (before ++ .observe chunk asked :: early)).after late := by
    rw [← after_append, List.append_assoc, List.cons_append]
  rw [hsplit] at hp
  rcases hsound.mem_pending_after hp with hearly | hlate
  · exact hearly
  · have hraised : p ∈ ((new debounce).after (before ++ [.observe chunk asked])).raisedIn
        (early ++ late) := by
      rw [raisedIn_append, List.mem_append, ← after_append, List.append_assoc,
        List.singleton_append]
      exact .inr hlate
    exact absurd rfl (latest?_eq_none_iff.1 hnone p hraised)

/-! ## Hand-outs -/

/-- A question is handed out if there is a current one whose deadline is reached. -/
theorem takeReady_isSome_iff (s : Session) (now : Instant) :
    (s.takeReady now).2.isSome = true ↔
      ∃ due, s.nextDeadline? = some due ∧ due.nanos ≤ now.nanos := by
  cases hstate : s.state with
  | awaiting prompt readyAt =>
    by_cases hready : now.reached readyAt = true
    · simp [takeReady, nextDeadline?, hstate, hready, ← Instant.reached_iff]
    · simp [takeReady, nextDeadline?, hstate, hready, ← Instant.reached_iff]
  | idle => simp [takeReady, nextDeadline?, hstate]
  | resolving kind => simp [takeReady, nextDeadline?, hstate]
  | done => simp [takeReady, nextDeadline?, hstate]

theorem takeReady_of_none (h : (s.takeReady now).2 = none) : s.takeReady now = (s, none) := by
  rcases takeReady_cases s now with htake | ⟨prompt, readyAt, -, -, htake⟩
  · exact htake
  · simp [htake] at h

/--
A question that is handed out was asked last by some chunk, and nothing of its category was asked
since.  Either it has had all its time to grow since then, or it has waited behind another question
since then, and was promoted when that one was dealt with.  A question is handed out just if there
is a deadline that is reached, and otherwise nothing changes.
-/
theorem settled_after (debounce : Duration) (operations : List Operation) (now : Instant) :
    let s := (new debounce).after operations
    (∀ given, (s.takeReady now).2 = some given →
      ∃ p before chunk asked later,
        given = p.handedOut ∧ operations = before ++ .observe chunk asked :: later ∧
        (new debounce).LastAsked p before chunk asked later ∧
        ((s.nextDeadline? = some (asked.afterOrSame debounce) ∧
            (asked.nanos + debounce.nanos < Instant.limit →
              asked.nanos + debounce.nanos ≤ now.nanos)) ∨
          ∃ early promoted late, later = early ++ .finishResolution promoted :: late ∧
            ((new debounce).after (before ++ .observe chunk asked :: early)).Promotes p promoted ∧
            s.nextDeadline? = some promoted ∧ promoted.nanos ≤ now.nanos)) ∧
    ((s.takeReady now).2.isSome = true ↔
      ∃ due, s.nextDeadline? = some due ∧ due.nanos ≤ now.nanos) ∧
    ((s.takeReady now).2 = none → s.takeReady now = (s, none)) := by
  intro s
  refine ⟨?_, takeReady_isSome_iff s now, takeReady_of_none⟩
  intro given hgiven
  rcases takeReady_cases s now with htake | ⟨p, readyAt, hstate, hready, htake⟩
  · simp [htake] at hgiven
  have hdeadline : s.nextDeadline? = some readyAt := by simp [nextDeadline?, hstate]
  have hreached : readyAt.nanos ≤ now.nanos := Instant.reached_iff.1 hready
  have hpending : p ∈ s.pending := by simp [pending, current_awaiting hstate]
  obtain ⟨before, chunk, asked, later, rfl, hlast⟩ := exists_lastAsked hpending
  refine ⟨p, before, chunk, asked, later, ?_, rfl, hlast, ?_⟩
  · rw [htake] at hgiven
    exact (Option.some.inj hgiven).symm
  -- the chunk starts the time of the question, and nothing but a promotion sets it anew
  let first := (new debounce).after (before ++ [.observe chunk asked])
  have hfirst : first = ((new debounce).after before).perform (.observe chunk asked) := by
    simp only [first, after_append, after_cons, after_nil]
  have hdue : first.DueAt p.category (asked.afterOrSame debounce) := by
    have hobserved := observe_dueAt (mem_of_latest? hlast.raised)
    rw [after_debounce] at hobserved
    rw [hfirst]
    exact hobserved
  have hlater : first.after later = s := by
    simp only [first, s, ← after_append, List.append_assoc, List.singleton_append]
  have hsound : first.Sound := sound_after debounce _
  rcases hdue.after hsound hlast.unraised (hlater ▸ hstate) rfl with
    rfl | ⟨early, q, late, rfl, hpromotes, hcategory⟩
  · left
    refine ⟨hdeadline, fun hlimit => ?_⟩
    rw [Instant.nanos_afterOrSame hlimit] at hreached
    exact hreached
  · right
    have hearly : first.after early =
        (new debounce).after (before ++ .observe chunk asked :: early) := by
      simp only [first, ← after_append, List.append_assoc, List.singleton_append]
    rw [hearly] at hpromotes
    -- what is promoted is the question that has been pending since
    have hsame : q = p :=
      (sound_after debounce _).eq_of_category (List.mem_append_right _ hpromotes.waiting)
        (hlast.pending early _ rfl) hcategory
    exact ⟨early, readyAt, late, rfl, hsame ▸ hpromotes, hdeadline, hreached⟩

/-- More text of the question starts its time anew. -/
example :
    let s := (new ⟨100⟩).after [.observe "? Enter password".toList ⟨0⟩, .observe ":".toList ⟨80⟩]
    (s.takeReady ⟨120⟩).2 = none ∧ (s.takeReady ⟨180⟩).2.isSome = true := by
  decide +kernel

end Session
end ContractAssist
