import ContractAssist.Proofs.Prompt.Invariant

/-!
# HandOut — how often a question is handed out

A question is handed out only while its category does not count as asked, and then it does count as
asked.  The only thing that takes this back is a notice about a password, if it is news.  So each
hand-out of a password question but the first is paid for by such a notice:

* `Session.handOuts` are the questions that a run hands out, `Session.noticesIn` the notices that it
  reads;
* `handOuts_add_vacancy_le` is the balance of one operation, `countP_handOuts_le` that of a run;
* `handOuts_after` draws the conclusions for the runs of a new session.
-/

namespace ContractAssist
namespace Session

/-! ## What a run hands out and reads -/

def handedOut? (s : Session) : Operation → Option Prompt
  | .takeReady now => (s.takeReady now).2
  | _ => none

/-- The questions that a run hands out, first to last. -/
def handOuts (s : Session) : List Operation → List Prompt
  | [] => []
  | op :: r => (s.handedOut? op).toList ++ (s.perform op).handOuts r

/--
The lines of a chunk that are notices about a password.  A line that goes on from a tail which was
such a notice already is none.
-/
def notices (s : Session) (chunk : Text) : List (Bool × Text) :=
  if s.isDone then [] else (s.linesRead chunk).filter fun l => reopens l.1 l.2

def noticesOf (s : Session) : Operation → List (Bool × Text)
  | .observe chunk _ => s.notices chunk
  | _ => []

def noticesIn (s : Session) : List Operation → List (Bool × Text)
  | [] => []
  | op :: r => s.noticesOf op ++ (s.perform op).noticesIn r

variable {s : Session}

/-- A notice that a run reads is read by one of its operations. -/
theorem exists_notices_of_noticesIn {operations : List Operation}
    (h : s.noticesIn operations ≠ []) :
    ∃ early chunk now late, operations = early ++ .observe chunk now :: late ∧
      (s.after early).notices chunk ≠ [] := by
  induction operations generalizing s with
  | nil => exact absurd rfl h
  | cons op r ih =>
    by_cases hop : s.noticesOf op = []
    · have hr : (s.perform op).noticesIn r ≠ [] := by
        simpa [noticesIn, hop] using h
      obtain ⟨early, chunk, now, late, happ, hnotices⟩ := ih hr
      exact ⟨op :: early, chunk, now, late, by rw [happ, List.cons_append], hnotices⟩
    · cases op with
      | observe chunk now => exact ⟨[], chunk, now, r, rfl, hop⟩
      | takeReady now => exact absurd rfl hop
      | finishResolution now => exact absurd rfl hop
      | markDone => exact absurd rfl hop

/-- Without a notice, a chunk leaves the flags as they are. -/
theorem observe_handled_of_no_notice {chunk : Text} (now : Instant) (h : s.notices chunk = []) :
    (s.observe chunk now).1.handled = s.handled := by
  cases hdone : s.isDone with
  | true => rw [observe_done hdone]
  | false =>
    apply observe_handled
    simpa [notices, hdone, List.filter_eq_nil_iff] using h

/-! ## The balance -/

/-- How many questions of a category may be handed out before the next notice: one or none. -/
def vacancy (s : Session) (c : PromptCategory) : Nat :=
  if s.handled.get c then 0 else 1

/-- How many more questions of a category some notices allow; only passwords are asked for again. -/
def allowed (c : PromptCategory) (notices : List (Bool × Text)) : Nat :=
  match c with
  | .keypair => 0
  | .password => notices.length

theorem vacancy_le_one (s : Session) (c : PromptCategory) : s.vacancy c ≤ 1 := by
  unfold vacancy
  split <;> omega

theorem vacancy_congr {s' : Session} (h : s'.handled = s.handled) (c : PromptCategory) :
    s'.vacancy c = s.vacancy c := by
  rw [vacancy, vacancy, h]

theorem allowed_append (c : PromptCategory) (notices later : List (Bool × Text)) :
    allowed c (notices ++ later) = allowed c notices + allowed c later := by
  cases c <;> simp [allowed]

/-- A chunk makes room for a question only by its notices. -/
theorem vacancy_observe_le (s : Session) (chunk : Text) (now : Instant) (c : PromptCategory) :
    (s.observe chunk now).1.vacancy c ≤ s.vacancy c + allowed c (s.notices chunk) := by
  cases c with
  | keypair =>
    have hflag : (s.observe chunk now).1.handled.get .keypair = s.handled.get .keypair :=
      observe_handled_keypair s chunk now
    rw [vacancy, vacancy, hflag]
    exact Nat.le_add_right _ _
  | password =>
    cases hnotices : s.notices chunk with
    | nil =>
      rw [vacancy_congr (observe_handled_of_no_notice now hnotices)]
      exact Nat.le_add_right _ _
    | cons l r =>
      have hone := vacancy_le_one (s.observe chunk now).1 .password
      simp only [allowed, List.length_cons]
      omega

/-- One operation hands out no more than there is room for. -/
theorem handOuts_add_vacancy_le (h : s.Sound) (op : Operation) (c : PromptCategory) :
    (s.handedOut? op).toList.countP (fun p => p.category = c) + (s.perform op).vacancy c ≤
      s.vacancy c + allowed c (s.noticesOf op) := by
  cases op with
  | observe chunk now =>
    simpa [handedOut?, perform, noticesOf] using vacancy_observe_le s chunk now c
  | finishResolution now =>
    have hsame := vacancy_congr (finishResolution_handled s now) c
    simp [handedOut?, perform, hsame]
  | markDone =>
    have hsame : s.markDone.vacancy c = s.vacancy c := rfl
    simp [handedOut?, perform, hsame]
  | takeReady now =>
    rcases takeReady_cases s now with htake | ⟨prompt, readyAt, hstate, -, htake⟩
    · simp [handedOut?, perform, htake]
    · have hclear : s.handled.get prompt.category = false :=
        (h.admitted prompt (by simp [pending, current_awaiting hstate])).unasked
      -- the flag of the category is clear before and set afterwards
      by_cases hc : prompt.category = c
      · have hbefore : s.vacancy c = 1 := by simp [vacancy, ← hc, hclear]
        have hafter : (s.perform (.takeReady now)).vacancy c = 0 := by
          simp [vacancy, perform, htake, ← hc]
        rw [hbefore, hafter]
        exact Nat.le_trans List.countP_le_length (by simp [handedOut?, htake])
      · have hcount : (s.handedOut? (.takeReady now)).toList.countP
            (fun p => p.category = c) = 0 := by
          have hcategory : ({ prompt with handled := true } : Prompt).category ≠ c := hc
          simp [handedOut?, htake, hcategory]
        have hafter : (s.perform (.takeReady now)).vacancy c = s.vacancy c := by
          have hne : c ≠ prompt.category := fun heq => hc heq.symm
          simp [vacancy, perform, htake, HandledFlags.get_set_of_ne s.handled true hne]
        rw [hcount, hafter]
        omega

/-- A run hands out no more than there is room for. -/
theorem countP_handOuts_le (h : s.Sound) (operations : List Operation) (c : PromptCategory) :
    (s.handOuts operations).countP (fun p => p.category = c) ≤
      s.vacancy c + allowed c (s.noticesIn operations) := by
  induction operations generalizing s with
  | nil => exact Nat.zero_le _
  | cons op r ih =>
    have hop := handOuts_add_vacancy_le h op c
    have hr := ih (h.perform op)
    rw [handOuts, noticesIn, List.countP_append, allowed_append]
    omega

/-- Only one operation hands out questions. -/
theorem exists_takeReady_of_handedOut {op : Operation} {p : Prompt} (h : s.handedOut? op = some p) :
    ∃ now, op = .takeReady now ∧ (s.takeReady now).2 = some p := by
  cases op with
  | takeReady now => exact ⟨now, rfl, h⟩
  | observe chunk now => cases h
  | finishResolution now => cases h
  | markDone => cases h

/-- After a question was handed out, its category counts as asked. -/
theorem vacancy_of_handedOut {op : Operation} {p : Prompt} (h : s.handedOut? op = some p) :
    (s.perform op).vacancy p.category = 0 := by
  obtain ⟨now, rfl, hp⟩ := exists_takeReady_of_handedOut h
  rcases takeReady_cases s now with htake | ⟨prompt, readyAt, -, -, htake⟩
  · simp [htake] at hp
  · have hcategory : p.category = prompt.category := by
      have hsame : { prompt with handled := true } = p := by simpa [htake] using hp
      rw [← hsame]
      rfl
    simp [vacancy, perform, htake, hcategory]

theorem noticesOf_of_handedOut {op : Operation} {p : Prompt} (h : s.handedOut? op = some p) :
    s.noticesOf op = [] := by
  obtain ⟨now, rfl, -⟩ := exists_takeReady_of_handedOut h
  rfl

theorem handOuts_append (s : Session) (before later : List Operation) :
    s.handOuts (before ++ later) = s.handOuts before ++ (s.after before).handOuts later := by
  induction before generalizing s with
  | nil => rfl
  | cons op r ih => simp [handOuts, ih]

theorem noticesIn_append (s : Session) (before later : List Operation) :
    s.noticesIn (before ++ later) = s.noticesIn before ++ (s.after before).noticesIn later := by
  induction before generalizing s with
  | nil => rfl
  | cons op r ih => simp [noticesIn, ih]

/-- Between two hand-outs of a password question, a notice is read. -/
theorem exists_notices_between (h : s.Sound) {op op' : Operation} {between : List Operation}
    {p p' : Prompt} (hp : s.handedOut? op = some p) (hpassword : p.category = .password)
    (hp' : (s.after (op :: between)).handedOut? op' = some p')
    (hpassword' : p'.category = .password) :
    ∃ early chunk now late, between = early ++ .observe chunk now :: late ∧
      (s.after (op :: early)).notices chunk ≠ [] := by
  -- the first one leaves no room, and the last one needs some
  have hvacancy : (s.perform op).vacancy .password = 0 := hpassword ▸ vacancy_of_handedOut hp
  have hcount := countP_handOuts_le (h.perform op) (between ++ [op']) .password
  have hlast : ((s.perform op).after between).handOuts [op'] = [p'] := by
    rw [after_cons] at hp'
    simp [handOuts, hp']
  have hquiet : ((s.perform op).after between).noticesIn [op'] = [] := by
    rw [after_cons] at hp'
    simp [noticesIn, noticesOf_of_handedOut hp']
  rw [handOuts_append, hlast, noticesIn_append, hquiet, List.append_nil, List.countP_append,
    hvacancy] at hcount
  have hnotices : (s.perform op).noticesIn between ≠ [] := by
    intro hnone
    rw [hnone] at hcount
    simp [allowed, hpassword'] at hcount
  exact exists_notices_of_noticesIn hnotices

/-! ## All runs of a new session -/

/--
A run hands out one question about a keypair at most, and at most one question about a password more
than it reads notices.  Between two questions about a password it reads a notice.
-/
theorem handOuts_after (debounce : Duration) :
    let s := new debounce
    (∀ operations : List Operation,
      (s.handOuts operations).countP (fun p => p.category = .keypair) ≤ 1 ∧
      (s.handOuts operations).countP (fun p => p.category = .password) ≤
        1 + (s.noticesIn operations).length) ∧
    ∀ before op between op' p p',
      (s.after before).handedOut? op = some p → p.category = .password →
      (s.after (before ++ op :: between)).handedOut? op' = some p' → p'.category = .password →
      ∃ early chunk now late, between = early ++ .observe chunk now :: late ∧
        (s.after (before ++ op :: early)).notices chunk ≠ [] := by
  intro s
  refine ⟨?_, ?_⟩
  · -- no flag is set at first, so there is room for one question of either category
    intro operations
    have hsound : s.Sound := sound_new debounce
    exact ⟨countP_handOuts_le hsound operations .keypair,
      countP_handOuts_le hsound operations .password⟩
  · intro before op between op' p p' hp hpassword hp' hpassword'
    have hsound : (s.after before).Sound := sound_after debounce before
    rw [after_append] at hp'
    obtain ⟨early, chunk, now, late, happ, hnotices⟩ :=
      exists_notices_between hsound hp hpassword hp' hpassword'
    refine ⟨early, chunk, now, late, happ, ?_⟩
    rw [after_append]
    exact hnotices

-- a password that was rejected is asked for again, so the bound is attained
example :
    let operations : List Operation :=
      [.observe "Enter password: ".toList ⟨0⟩, .takeReady ⟨1⟩, .finishResolution ⟨1⟩,
        .observe "\nWrong password\nEnter password: ".toList ⟨2⟩, .takeReady ⟨2⟩]
    ((new ⟨0⟩).handOuts operations).length = 2 ∧
      ((new ⟨0⟩).noticesIn operations).length = 1 := by
  decide +kernel

end Session
end ContractAssist
