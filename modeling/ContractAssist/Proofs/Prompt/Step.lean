import ContractAssist.Proofs.Prompt.Operation

/-!
# Step — what one operation does to a session

Each operation is described once, so that later modules need not open it:

* `category_enqueue` says which categories wait after one more question;
* `register_cases` and `takeReady_cases` list what a question on a line can do, and what asking for
  a settled question can do;
* the last sections list what each operation leaves as it is: whether questions are handled at all,
  the tail, the flags, and the question that is being answered.
-/

namespace ContractAssist

/-! ## Flags and queues -/

namespace HandledFlags

@[simp] theorem get_set_self (h : HandledFlags) (c : PromptCategory) (value : Bool) :
    (h.set c value).get c = value := by
  cases c <;> rfl

theorem get_set_of_ne {c d : PromptCategory} (h : HandledFlags) (value : Bool) (hne : c ≠ d) :
    (h.set d value).get c = h.get c := by
  cases c with
  | keypair =>
    cases d with
    | keypair => exact absurd rfl hne
    | password => rfl
  | password =>
    cases d with
    | keypair => rfl
    | password => exact absurd rfl hne

/-- To clear a flag leaves no flag set that was clear. -/
theorem get_set_false_of_clear {h : HandledFlags} {c : PromptCategory} (d : PromptCategory)
    (hclear : h.get c = false) : (h.set d false).get c = false := by
  by_cases hcd : c = d
  · rw [hcd, get_set_self]
  · rw [get_set_of_ne h false hcd, hclear]

end HandledFlags

namespace Session

theorem mem_enqueue {p q : Prompt} {queue : List Prompt} (h : q ∈ enqueue p queue) :
    q = p ∨ q ∈ queue := by
  induction queue with
  | nil => exact .inl (by simpa [enqueue] using h)
  | cons first r ih =>
    by_cases hsame : first.category = p.category
    · simp only [enqueue, if_pos hsame, List.mem_cons] at h
      rcases h with rfl | h
      · exact .inl rfl
      · exact .inr (List.mem_cons_of_mem first h)
    · simp only [enqueue, if_neg hsame, List.mem_cons] at h
      rcases h with rfl | h
      · exact .inr List.mem_cons_self
      · rcases ih h with rfl | h
        · exact .inl rfl
        · exact .inr (List.mem_cons_of_mem first h)

/-- A new category goes to the end of the queue; a known one keeps its place. -/
theorem category_enqueue (p : Prompt) (queue : List Prompt) :
    (enqueue p queue).map Prompt.category =
      if p.category ∈ queue.map Prompt.category then queue.map Prompt.category
      else queue.map Prompt.category ++ [p.category] := by
  induction queue with
  | nil => simp [enqueue]
  | cons first r ih =>
    by_cases hsame : first.category = p.category
    · simp [enqueue, hsame]
    · have hne : p.category ≠ first.category := fun h => hsame h.symm
      simp only [enqueue, if_neg hsame, List.map_cons, ih, List.mem_cons, hne, false_or]
      split <;> rfl

theorem nodup_enqueue {p : Prompt} {queue : List Prompt}
    (h : (queue.map Prompt.category).Nodup) : ((enqueue p queue).map Prompt.category).Nodup := by
  rw [category_enqueue]
  split
  · exact h
  · rename_i hnew
    refine List.nodup_append.2 ⟨h, by simp, ?_⟩
    intro c hc d hd
    rw [List.mem_singleton.1 hd]
    rintro rfl
    exact hnew hc

/-! ## Asking a question -/

def current (s : Session) : List Prompt :=
  match s.state with
  | .awaiting prompt _ => [prompt]
  | _ => []

theorem current_awaiting {s : Session} {prompt : Prompt} {readyAt : Instant}
    (h : s.state = .awaiting prompt readyAt) : s.current = [prompt] := by
  simp [current, h]

theorem current_eq_nil {s : Session} (h : ∀ prompt readyAt, s.state ≠ .awaiting prompt readyAt) :
    s.current = [] := by
  cases hstate : s.state with
  | awaiting prompt readyAt => exact absurd hstate (h prompt readyAt)
  | idle => simp [current, hstate]
  | resolving kind => simp [current, hstate]
  | done => simp [current, hstate]

theorem current_of_isResolving {s : Session} (h : s.isResolving = true) : s.current = [] := by
  apply current_eq_nil
  intro prompt readyAt hstate
  simp [isResolving, hstate] at h

/-- A line that asks leaves the session as it is, or becomes the current question, or waits. -/
theorem register_cases (s : Session) (kind : PromptKind) (line : Text) (now : Instant) :
    ((s.handled.get kind.category = true ∨ s.state = .done) ∧
      s.register kind line now = (s, false)) ∨
    (s.handled.get kind.category = false ∧ s.state = .idle ∧
      s.register kind line now =
        ({ s with state := .awaiting (.fresh kind line) (now.afterOrSame s.debounce) }, true)) ∨
    (∃ current readyAt, s.handled.get kind.category = false ∧
      s.state = .awaiting current readyAt ∧ current.category = kind.category ∧
      s.register kind line now =
        ({ s with
            state :=
              .awaiting { Prompt.fresh kind line with handled := current.handled }
                (now.afterOrSame s.debounce) }, true)) ∨
    (s.handled.get kind.category = false ∧ s.state ≠ .idle ∧ s.state ≠ .done ∧
      (∀ p ∈ s.current, p.category ≠ kind.category) ∧
      s.register kind line now =
        ({ s with queue := enqueue (.fresh kind line) s.queue }, true)) := by
  cases hflag : s.handled.get kind.category with
  | true => exact .inl ⟨.inl rfl, by simp [register, hflag]⟩
  | false =>
    cases hstate : s.state with
    | idle => exact .inr (.inl ⟨rfl, rfl, by simp [register, hflag, hstate]⟩)
    | awaiting current readyAt =>
      by_cases hsame : current.category = kind.category
      · refine .inr (.inr (.inl ⟨current, readyAt, rfl, rfl, hsame, ?_⟩))
        simp [register, hflag, hstate, hsame]
      · refine .inr (.inr (.inr ⟨rfl, by simp, by simp, ?_, ?_⟩))
        · simpa [current_awaiting hstate] using hsame
        · simp [register, hflag, hstate, hsame]
    | resolving k =>
      refine .inr (.inr (.inr ⟨rfl, by simp, by simp, ?_, ?_⟩))
      · simp [Session.current, hstate]
      · simp [register, hflag, hstate]
    | done => exact .inl ⟨.inr rfl, by simp [register, hflag, hstate]⟩

/-! ## Handing out a question -/

/-- Only the current question is handed out, and only once its text has settled. -/
theorem takeReady_cases (s : Session) (now : Instant) :
    s.takeReady now = (s, none) ∨
    ∃ prompt readyAt, s.state = .awaiting prompt readyAt ∧ now.reached readyAt = true ∧
      s.takeReady now =
        ({ s with
            state := .resolving prompt.kind
            handled := s.handled.set prompt.category true },
          some { prompt with handled := true }) := by
  cases hstate : s.state with
  | awaiting prompt readyAt =>
    cases hready : now.reached readyAt with
    | true => exact .inr ⟨prompt, readyAt, rfl, hready, by simp [takeReady, hstate, hready]⟩
    | false => exact .inl (by simp [takeReady, hstate, hready])
  | idle => exact .inl (by simp [takeReady, hstate])
  | resolving kind => exact .inl (by simp [takeReady, hstate])
  | done => exact .inl (by simp [takeReady, hstate])

/-- Dealing with a question changes only the state and the queue, and ends nothing. -/
theorem finishResolution_cases (s : Session) (now : Instant) :
    s.finishResolution now = s ∨
    ∃ state queue, s.isResolving = true ∧ state ≠ .done ∧
      s.finishResolution now = { s with state := state, queue := queue } := by
  cases hresolving : s.isResolving with
  | false => exact .inl (by simp [finishResolution, hresolving])
  | true =>
    right
    cases hqueue : s.queue.dropWhile fun p => s.handled.get p.category with
    | nil => exact ⟨.idle, [], rfl, by simp, by simp [finishResolution, hresolving, hqueue]⟩
    | cons p r =>
      exact ⟨.awaiting p now, r, rfl, by simp, by simp [finishResolution, hresolving, hqueue]⟩

/-! ## Whether questions are handled -/

theorem isDone_iff {s : Session} : s.isDone = true ↔ s.state = .done := by
  cases hstate : s.state <;> simp [isDone, hstate]

theorem isDone_of_idle {s : Session} (h : s.state = .idle) : s.isDone = false := by
  simp [isDone, h]

theorem register_isDone (s : Session) (kind : PromptKind) (line : Text) (now : Instant) :
    (s.register kind line now).1.isDone = s.isDone := by
  rcases register_cases s kind line now with
    ⟨-, hreg⟩ | ⟨-, hidle, hreg⟩ | ⟨current, readyAt, -, hstate, -, hreg⟩ | ⟨-, -, -, -, hreg⟩
  · rw [hreg]
  · simp [hreg, isDone, hidle]
  · simp [hreg, isDone, hstate]
  · rw [hreg]
    rfl

theorem observe_isDone (s : Session) (chunk : Text) (now : Instant) :
    (s.observe chunk now).1.isDone = s.isDone := by
  refine observe_induction (P := fun s' => s'.isDone = s.isDone) (fun _ hs' => hs') ?_
    (fun _ _ hs' => hs') rfl chunk
  intro s' kind line _ hs'
  exact (register_isDone s' kind line now).trans hs'

theorem takeReady_isDone (s : Session) (now : Instant) :
    (s.takeReady now).1.isDone = s.isDone := by
  rcases takeReady_cases s now with htake | ⟨prompt, readyAt, hstate, -, htake⟩
  · rw [htake]
  · simp [htake, isDone, hstate]

theorem finishResolution_isDone (s : Session) (now : Instant) :
    (s.finishResolution now).isDone = s.isDone := by
  rcases finishResolution_cases s now with hsame | ⟨state, queue, hresolving, hstate, hfinish⟩
  · rw [hsame]
  · have hbefore : s.state ≠ .done := by
      intro hdone
      simp [isResolving, hdone] at hresolving
    rw [Bool.eq_iff_iff, isDone_iff, isDone_iff, hfinish]
    exact iff_of_false hstate hbefore

/-- Only one operation ends the handling of questions, and none takes it up again. -/
theorem perform_isDone (s : Session) (op : Operation) :
    (s.perform op).isDone = (s.isDone || decide (op = .markDone)) := by
  cases op with
  | observe chunk now => simpa [perform] using observe_isDone s chunk now
  | takeReady now => simpa [perform] using takeReady_isDone s now
  | finishResolution now => simpa [perform] using finishResolution_isDone s now
  | markDone => simp [perform, markDone, isDone]

/-! ## The tail -/

theorem takeReady_tail (s : Session) (now : Instant) : (s.takeReady now).1.tail = s.tail := by
  rcases takeReady_cases s now with htake | ⟨prompt, readyAt, -, -, htake⟩ <;> rw [htake]

theorem finishResolution_tail (s : Session) (now : Instant) :
    (s.finishResolution now).tail = s.tail := by
  rcases finishResolution_cases s now with hsame | ⟨state, queue, -, -, hfinish⟩
  · rw [hsame]
  · rw [hfinish]

/-! ## The flags -/

theorem register_handled (s : Session) (kind : PromptKind) (line : Text) (now : Instant) :
    (s.register kind line now).1.handled = s.handled := by
  rcases register_cases s kind line now with
    ⟨-, hreg⟩ | ⟨-, -, hreg⟩ | ⟨current, readyAt, -, -, -, hreg⟩ | ⟨-, -, -, -, hreg⟩ <;> rw [hreg]

/-- A line changes the flags only if it lets a password be asked for again. -/
theorem readLine_handled (s : Session) (now : Instant) (news : Bool) (line : Text) :
    (s.readLine now news line).1.handled =
      if reopens news line then s.handled.set .password false else s.handled := by
  rcases readLine_cases s now news line with hread | ⟨kind, -, hread⟩
  · rw [hread, noticed_handled]
  · rw [hread, register_handled, noticed_handled]

/-- Without a notice that is news, a chunk leaves the flags as they are. -/
theorem observe_handled {s : Session} {chunk : Text} (now : Instant)
    (h : ∀ l ∈ s.linesRead chunk, reopens l.1 l.2 = false) :
    (s.observe chunk now).1.handled = s.handled := by
  have hlines : ∀ (s : Session) (lines : List (Bool × Text)),
      (∀ l ∈ lines, reopens l.1 l.2 = false) → (s.readLines now lines).handled = s.handled := by
    intro s lines hquiet
    induction lines generalizing s with
    | nil => rfl
    | cons l r ih =>
      have hl : (s.readLine now l.1 l.2).1.handled = s.handled := by
        simp [readLine_handled, hquiet l List.mem_cons_self]
      have hr := ih (s.readLine now l.1 l.2).1 fun l' hl' => hquiet l' (List.mem_cons_of_mem l hl')
      exact hr.trans hl
  cases hdone : s.isDone with
  | true => rw [observe_done hdone]
  | false =>
    rw [observe_fst hdone]
    exact hlines s _ h

/-- A keypair is never asked for again, whatever the output says. -/
theorem observe_handled_keypair (s : Session) (chunk : Text) (now : Instant) :
    (s.observe chunk now).1.handled.keypair = s.handled.keypair := by
  refine observe_induction (P := fun s' => s'.handled.keypair = s.handled.keypair)
    (fun _ hs' => hs') ?_ (fun _ _ hs' => hs') rfl chunk
  intro s' kind line _ hs'
  have hkept := register_handled s' kind line now
  exact (congrArg HandledFlags.keypair hkept).trans hs'

theorem finishResolution_handled (s : Session) (now : Instant) :
    (s.finishResolution now).handled = s.handled := by
  rcases finishResolution_cases s now with hsame | ⟨state, queue, -, -, hfinish⟩
  · rw [hsame]
  · rw [hfinish]

/-! ## The question that is being answered -/

theorem register_resolving {s : Session} {k : PromptKind} (h : s.state = .resolving k)
    (kind : PromptKind) (line : Text) (now : Instant) :
    (s.register kind line now).1.state = .resolving k := by
  rcases register_cases s kind line now with
    ⟨-, hreg⟩ | ⟨-, hidle, -⟩ | ⟨current, readyAt, -, hstate, -, -⟩ | ⟨-, -, -, -, hreg⟩
  · rw [hreg]
    exact h
  · simp [h] at hidle
  · simp [h] at hstate
  · rw [hreg]
    exact h

/-- Output does not end the answering of a question. -/
theorem observe_resolving {s : Session} {k : PromptKind} (h : s.state = .resolving k)
    (chunk : Text) (now : Instant) : (s.observe chunk now).1.state = .resolving k :=
  observe_induction (P := fun s => s.state = .resolving k) (fun _ hs => hs)
    (fun _ kind line _ hs => register_resolving hs kind line now) (fun _ _ hs => hs) h chunk

/-- A question that is handed out is being answered from then on. -/
theorem resolving_of_takeReady {s s' : Session} {now : Instant} {prompt : Prompt}
    (h : s.takeReady now = (s', some prompt)) :
    s'.state = .resolving prompt.kind ∧ s.isDone = false := by
  rcases takeReady_cases s now with htake | ⟨p, readyAt, hstate, -, htake⟩
  · simp [htake] at h
  · simp only [htake, Prod.mk.injEq, Option.some.injEq] at h
    obtain ⟨rfl, rfl⟩ := h
    exact ⟨rfl, by simp [isDone, hstate]⟩

end Session
end ContractAssist
