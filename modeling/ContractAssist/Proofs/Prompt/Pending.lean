import ContractAssist.Proofs.Prompt.HandOut
import Mathlib.Data.List.Nodup

/-!
# Pending — no question that was seen is lost

A line raises a question when the session takes note of it.  This module follows such a question
until it is handed out, or until a later line of its category takes its place:

1. `Session.raised` are the questions that a chunk raises, and `observe_prompt_iff` says that a
   chunk is reported exactly when there is one;
2. `readLine_pending` says what a line does to the pending questions: nothing, or it puts the one it
   raises in the place of its category;
3. `UpToDate.after`: whatever is pending is the latest question of its category that was raised.
-/

namespace ContractAssist
namespace Session

/-! ## Questions that are raised -/

/-- The question that a line raises: the one it asks, if the session takes note of it. -/
def raisedOnLine (s : Session) (now : Instant) (l : Bool × Text) : List Prompt :=
  if (s.readLine now l.1 l.2).2 then
    ((classify l.2).question?.map fun kind => Prompt.fresh kind l.2).toList
  else []

def raisedOnLines (s : Session) (now : Instant) : List (Bool × Text) → List Prompt
  | [] => []
  | l :: r => s.raisedOnLine now l ++ (s.readLine now l.1 l.2).1.raisedOnLines now r

def raised (s : Session) (chunk : Text) (now : Instant) : List Prompt :=
  if s.isDone then [] else s.raisedOnLines now (s.linesRead chunk)

def raisedBy (s : Session) : Operation → List Prompt
  | .observe chunk now => s.raised chunk now
  | _ => []

def raisedIn (s : Session) : List Operation → List Prompt
  | [] => []
  | op :: r => s.raisedBy op ++ (s.perform op).raisedIn r

variable {s : Session}

theorem raisedIn_append (s : Session) (before later : List Operation) :
    s.raisedIn (before ++ later) = s.raisedIn before ++ (s.after before).raisedIn later := by
  induction before generalizing s with
  | nil => rfl
  | cons op r ih => simp [raisedIn, ih]

/-- A line that is reported asks a question, and raises just this one. -/
theorem raisedOnLine_cases (s : Session) (now : Instant) (l : Bool × Text) :
    ((s.readLine now l.1 l.2).2 = false ∧ s.raisedOnLine now l = []) ∨
    ∃ kind, (classify l.2).question? = some kind ∧ (s.readLine now l.1 l.2).2 = true ∧
      s.raisedOnLine now l = [.fresh kind l.2] := by
  cases hasked : (s.readLine now l.1 l.2).2 with
  | false => exact .inl ⟨rfl, by simp [raisedOnLine, hasked]⟩
  | true =>
    right
    rcases readLine_cases s now l.1 l.2 with hread | ⟨kind, hkind, -⟩
    · simp [hread] at hasked
    · exact ⟨kind, hkind, rfl, by simp [raisedOnLine, hasked, hkind]⟩

theorem readLine_asked_iff (s : Session) (now : Instant) (l : Bool × Text) :
    (s.readLine now l.1 l.2).2 = true ↔ s.raisedOnLine now l ≠ [] := by
  rcases raisedOnLine_cases s now l with ⟨hasked, hraised⟩ | ⟨kind, -, hasked, hraised⟩
  · simp [hasked, hraised]
  · simp [hasked, hraised]

theorem observeLines_prompt_iff (s : Session) (now : Instant) (lines : List Text.Line) :
    (s.observeLines now lines).2.prompt = true ↔
      s.raisedOnLines now (lines.map fun l => (true, l.body)) ≠ [] := by
  induction lines generalizing s with
  | nil => simp [observeLines, raisedOnLines]
  | cons l r ih =>
    have hfirst := readLine_asked_iff s now (true, l.body)
    have hobserve : (s.observeLines now (l :: r)).2.prompt =
        ((s.readLine now true l.body).2 ||
          ((s.readLine now true l.body).1.observeLines now r).2.prompt) := rfl
    rw [hobserve, Bool.or_eq_true, hfirst, ih, List.map_cons, raisedOnLines, ne_eq, ne_eq, ne_eq,
      List.append_eq_nil_iff, Decidable.not_and_iff_not_or_not]

/-- A chunk is reported to ask exactly when it raises a question. -/
theorem observe_prompt_iff (s : Session) (chunk : Text) (now : Instant) :
    (s.observe chunk now).2.prompt = true ↔ s.raised chunk now ≠ [] := by
  cases hdone : s.isDone with
  | true => simp [observe_done hdone, raised, hdone]
  | false =>
    let first := s.readLine now (!s.carriesSignal) (s.tail ++ (Text.lines chunk).1.body)
    have hfirst : first.2 = true ↔ _ :=
      readLine_asked_iff s now (!s.carriesSignal, s.tail ++ (Text.lines chunk).1.body)
    have hrest := observeLines_prompt_iff first.1 now (Text.lines chunk).2
    have hobserve : (s.observe chunk now).2.prompt =
        (first.2 || (first.1.observeLines now (Text.lines chunk).2).2.prompt) := by
      simp only [observe, hdone, Bool.false_eq_true, if_false]
      rfl
    have hraised : s.raised chunk now = s.raisedOnLines now (s.linesRead chunk) := by
      simp [raised, hdone]
    rw [hobserve, Bool.or_eq_true, hfirst, hrest, hraised, linesRead, raisedOnLines, ne_eq, ne_eq,
      ne_eq, List.append_eq_nil_iff, Decidable.not_and_iff_not_or_not]

/-! ## The place of a question -/

theorem Sound.eq_of_category (h : s.Sound) {p q : Prompt} (hp : p ∈ s.pending)
    (hq : q ∈ s.pending) (hsame : p.category = q.category) : p = q :=
  List.inj_on_of_nodup_map h.categories hp hq hsame

/-- In a queue with one question of each category, a new one replaces that of its category. -/
theorem mem_enqueue_iff {p q : Prompt} {queue : List Prompt}
    (h : (queue.map Prompt.category).Nodup) :
    q ∈ enqueue p queue ↔ q = p ∨ (q ∈ queue ∧ q.category ≠ p.category) := by
  induction queue with
  | nil => simp [enqueue]
  | cons first r ih =>
    obtain ⟨hfirst, hr⟩ := List.nodup_cons.1 h
    by_cases hsame : first.category = p.category
    · -- nothing behind the first one is of the category of `p`
      have hother : q ∈ r → q.category ≠ p.category := by
        intro hq heq
        exact hfirst (hsame.trans heq.symm ▸ List.mem_map_of_mem hq)
      rw [enqueue, if_pos hsame, List.mem_cons, List.mem_cons]
      constructor
      · rintro (hq | hq)
        · exact .inl hq
        · exact .inr ⟨.inr hq, hother hq⟩
      · rintro (hq | ⟨rfl | hq, hne⟩)
        · exact .inl hq
        · exact absurd hsame hne
        · exact .inr hq
    · rw [enqueue, if_neg hsame, List.mem_cons, List.mem_cons, ih hr]
      constructor
      · rintro (rfl | hq | ⟨hq, hne⟩)
        · exact .inr ⟨.inl rfl, hsame⟩
        · exact .inl hq
        · exact .inr ⟨.inr hq, hne⟩
      · rintro (hq | ⟨rfl | hq, hne⟩)
        · exact .inr (.inl hq)
        · exact .inl rfl
        · exact .inr (.inr ⟨hq, hne⟩)

/-- The pending questions `after`, if `p` takes the place of its category among those `before`. -/
def Placed (p : Prompt) (before after : List Prompt) : Prop :=
  ∀ q, q ∈ after ↔ q = p ∨ (q ∈ before ∧ q.category ≠ p.category)

/-- A question that is asked is either ignored or takes the place of its category. -/
theorem Sound.register_pending (h : s.Sound) (kind : PromptKind) (line : Text) (now : Instant) :
    ((s.handled.get kind.category = true ∨ s.state = .done) ∧
      s.register kind line now = (s, false)) ∨
    (s.handled.get kind.category = false ∧ (s.register kind line now).2 = true ∧
      Placed (.fresh kind line) s.pending (s.register kind line now).1.pending) := by
  have hnodup := h.categories
  rcases register_cases s kind line now with
    ⟨hignored, hreg⟩ | ⟨hclear, hidle, hreg⟩ | ⟨current, readyAt, hclear, hstate, hsame, hreg⟩ |
      ⟨hclear, -, -, hother, hreg⟩
  · exact .inl ⟨hignored, hreg⟩
  · -- nothing was pending
    refine .inr ⟨hclear, by rw [hreg], ?_⟩
    intro q
    have hbefore : s.pending = [] := h.pending_of_idle hidle
    have hafter : (s.register kind line now).1.pending = [.fresh kind line] := by
      rw [hreg, pending, h.idle hidle]
      rfl
    simp [hbefore, hafter]
  · refine .inr ⟨hclear, by rw [hreg], ?_⟩
    intro q
    have hpending : s.pending = current :: s.queue := by
      rw [pending, current_awaiting hstate]
      rfl
    rw [hpending, List.map_cons, List.nodup_cons] at hnodup
    have hunhandled : current.handled = false :=
      (h.admitted current (by simp [hpending])).unhandled
    have hafter : (s.register kind line now).1.pending = .fresh kind line :: s.queue := by
      rw [hreg, hunhandled]
      rfl
    -- what waits is of another category than the current question
    have hqueue : q ∈ s.queue → q.category ≠ kind.category := by
      intro hq heq
      exact hnodup.1 (hsame.trans heq.symm ▸ List.mem_map_of_mem hq)
    rw [hafter, hpending, List.mem_cons, List.mem_cons]
    constructor
    · rintro (hq | hq)
      · exact .inl hq
      · exact .inr ⟨.inr hq, hqueue hq⟩
    · rintro (hq | ⟨rfl | hq, hne⟩)
      · exact .inl hq
      · exact absurd hsame hne
      · exact .inr hq
  · refine .inr ⟨hclear, by rw [hreg], ?_⟩
    intro q
    have hqueue : (s.queue.map Prompt.category).Nodup := by
      rw [pending, List.map_append] at hnodup
      exact (List.nodup_append.1 hnodup).2.1
    have hafter : (s.register kind line now).1.pending =
        s.current ++ Session.enqueue (.fresh kind line) s.queue := by
      rw [hreg]
      rfl
    rw [hafter, pending, List.mem_append, List.mem_append, mem_enqueue_iff hqueue]
    constructor
    · rintro (hq | hq | ⟨hq, hne⟩)
      · exact .inr ⟨.inl hq, hother q hq⟩
      · exact .inl hq
      · exact .inr ⟨.inr hq, hne⟩
    · rintro (hq | ⟨hq | hq, hne⟩)
      · exact .inr (.inl hq)
      · exact .inl hq
      · exact .inr (.inr ⟨hq, hne⟩)

theorem Sound.readLine (h : s.Sound) (now : Instant) (l : Bool × Text) :
    (s.readLine now l.1 l.2).1.Sound :=
  readLine_induction (fun _ hs => hs.reopened) (fun _ _ _ hkind hs => hs.register now hkind) h l.1
    l.2

theorem Sound.noticed (h : s.Sound) (news : Bool) (line : Text) : (s.noticed news line).Sound :=
  noticed_induction h.reopened h news line

theorem noticed_pending (s : Session) (news : Bool) (line : Text) :
    (s.noticed news line).pending = s.pending :=
  noticed_induction (P := fun s' => s'.pending = s.pending) rfl rfl news line

/-- A line leaves the pending questions as they are, or puts the one it raises in its place. -/
theorem Sound.readLine_pending (h : s.Sound) (now : Instant) (l : Bool × Text) :
    (s.raisedOnLine now l = [] ∧ (s.readLine now l.1 l.2).1.pending = s.pending) ∨
    ∃ p, s.raisedOnLine now l = [p] ∧ Placed p s.pending (s.readLine now l.1 l.2).1.pending := by
  have hpending := noticed_pending s l.1 l.2
  rcases readLine_cases s now l.1 l.2 with hread | ⟨kind, hkind, hread⟩
  · exact .inl ⟨by simp [raisedOnLine, hread], by rw [hread, hpending]⟩
  · rcases (h.noticed l.1 l.2).register_pending kind l.2 now with ⟨-, hreg⟩ | ⟨-, hasked, hplaced⟩
    · exact .inl ⟨by simp [raisedOnLine, hread, hreg], by rw [hread, hreg, hpending]⟩
    · refine .inr ⟨.fresh kind l.2, by simp [raisedOnLine, hread, hasked, hkind], ?_⟩
      rw [hread, ← hpending]
      exact hplaced

/-! ## Handing out and going on -/

/-- Only the first pending question is handed out. -/
theorem takeReady_pending (s : Session) (now : Instant) :
    s.takeReady now = (s, none) ∨
    ∃ p, s.pending = p :: (s.takeReady now).1.pending ∧
      (s.takeReady now).2 = some { p with handled := true } := by
  rcases takeReady_cases s now with htake | ⟨prompt, readyAt, hstate, -, htake⟩
  · exact .inl htake
  · refine .inr ⟨prompt, ?_, by rw [htake]⟩
    rw [htake, pending, current_awaiting hstate]
    rfl

/-- To go on to the next question leaves all of them pending. -/
theorem Sound.finishResolution_pending (h : s.Sound) (now : Instant) :
    (s.finishResolution now).pending = s.pending := by
  cases hresolving : s.isResolving with
  | false => simp [Session.finishResolution, hresolving]
  | true =>
    rw [h.finishResolution_eq hresolving, pending, pending, current_of_isResolving hresolving]
    cases hqueue : s.queue <;> rfl

/-! ## The latest question of each category -/

def latest? (c : PromptCategory) (prompts : List Prompt) : Option Prompt :=
  prompts.reverse.find? fun p => p.category = c

theorem latest?_append (c : PromptCategory) (earlier later : List Prompt) :
    latest? c (earlier ++ later) = (latest? c later).or (latest? c earlier) := by
  simp [latest?]

theorem latest?_singleton (p : Prompt) : latest? p.category [p] = some p := by
  simp [latest?]

theorem latest?_of_ne {c : PromptCategory} {p : Prompt} (h : c ≠ p.category) :
    latest? c [p] = none := by
  simpa [latest?] using fun heq => h heq.symm

/-- Whatever is pending is the latest question of its category among those that were raised. -/
def UpToDate (s : Session) (raised : List Prompt) : Prop :=
  ∀ p ∈ s.pending, latest? p.category raised = some p

theorem UpToDate.of_subset {s' : Session} {raised : List Prompt} (h : s.UpToDate raised)
    (hsub : s'.pending ⊆ s.pending) : s'.UpToDate raised :=
  fun p hp => h p (hsub hp)

theorem UpToDate.readLine {earlier : List Prompt} (h : s.UpToDate earlier) (hs : s.Sound)
    (now : Instant) (l : Bool × Text) :
    (s.readLine now l.1 l.2).1.UpToDate (earlier ++ s.raisedOnLine now l) := by
  rcases hs.readLine_pending now l with ⟨hraised, hpending⟩ | ⟨p, hraised, hplaced⟩
  · intro q hq
    rw [hraised, List.append_nil]
    exact h q (hpending ▸ hq)
  · intro q hq
    rw [hraised, latest?_append]
    rcases (hplaced q).1 hq with rfl | ⟨hold, hne⟩
    · rw [latest?_singleton]
      rfl
    · rw [latest?_of_ne hne]
      exact h q hold

theorem UpToDate.readLines {earlier : List Prompt} (h : s.UpToDate earlier) (hs : s.Sound)
    (now : Instant) (lines : List (Bool × Text)) :
    (s.readLines now lines).UpToDate (earlier ++ s.raisedOnLines now lines) := by
  induction lines generalizing s earlier with
  | nil =>
    rw [raisedOnLines, List.append_nil]
    exact h
  | cons l r ih =>
    rw [raisedOnLines, ← List.append_assoc]
    exact ih (h.readLine hs now l) (hs.readLine now l)

theorem UpToDate.perform {earlier : List Prompt} (h : s.UpToDate earlier) (hs : s.Sound)
    (op : Operation) : (s.perform op).UpToDate (earlier ++ s.raisedBy op) := by
  cases op with
  | observe chunk now =>
    cases hdone : s.isDone with
    | true => simpa [Session.perform, raisedBy, raised, observe_done hdone, hdone] using h
    | false =>
      have hlines := h.readLines hs now (s.linesRead chunk)
      simp only [Session.perform, raisedBy, raised, hdone, observe_fst hdone]
      exact hlines
  | takeReady now =>
    have hraised : s.raisedBy (.takeReady now) = [] := rfl
    rw [hraised, List.append_nil]
    apply h.of_subset
    rcases takeReady_pending s now with htake | ⟨p, hpending, -⟩
    · rw [Session.perform, htake]
      exact List.Subset.refl _
    · rw [hpending]
      exact List.subset_cons_self _ _
  | finishResolution now =>
    have hraised : s.raisedBy (.finishResolution now) = [] := rfl
    rw [hraised, List.append_nil]
    apply h.of_subset
    rw [Session.perform, hs.finishResolution_pending]
    exact List.Subset.refl _
  | markDone =>
    intro p hp
    exact absurd hp List.not_mem_nil

theorem UpToDate.after {earlier : List Prompt} (h : s.UpToDate earlier) (hs : s.Sound)
    (operations : List Operation) :
    (s.after operations).UpToDate (earlier ++ s.raisedIn operations) := by
  induction operations generalizing s earlier with
  | nil =>
    rw [raisedIn, List.append_nil]
    exact h
  | cons op r ih =>
    rw [raisedIn, ← List.append_assoc]
    exact ih (h.perform hs op) (hs.perform op)

/-! ## Nothing that is raised is lost -/

/-- A category that is pending stays pending, and one that is raised becomes so. -/
theorem Sound.pending_readLines (h : s.Sound) (now : Instant) (lines : List (Bool × Text))
    {p : Prompt} (hp : p ∈ s.pending ∨ p ∈ s.raisedOnLines now lines) :
    ∃ q ∈ (s.readLines now lines).pending, q.category = p.category := by
  induction lines generalizing s p with
  | nil =>
    rcases hp with hp | hp
    · exact ⟨p, hp, rfl⟩
    · exact absurd hp List.not_mem_nil
  | cons l r ih =>
    have hs := h.readLine now l
    rw [raisedOnLines, List.mem_append] at hp
    rcases h.readLine_pending now l with ⟨hraised, hpending⟩ | ⟨p', hraised, hplaced⟩
    · rcases hp with hp | hp | hp
      · exact ih hs (.inl (hpending ▸ hp))
      · simp [hraised] at hp
      · exact ih hs (.inr hp)
    · have hp' : p' ∈ (s.readLine now l.1 l.2).1.pending := (hplaced p').2 (.inl rfl)
      rcases hp with hp | hp | hp
      · -- it is still there, or `p'` has taken its place
        by_cases hsame : p.category = p'.category
        · obtain ⟨q, hq, hcategory⟩ := ih hs (.inl hp')
          exact ⟨q, hq, hcategory.trans hsame.symm⟩
        · exact ih hs (.inl ((hplaced p).2 (.inr ⟨hp, hsame⟩)))
      · rw [hraised, List.mem_singleton] at hp
        exact ih hs (.inl (hp ▸ hp'))
      · exact ih hs (.inr hp)

/-- Each question that a chunk raises leaves one of its category pending. -/
theorem Sound.pending_of_raised (h : s.Sound) {chunk : Text} {now : Instant} {p : Prompt}
    (hp : p ∈ s.raised chunk now) :
    ∃ q ∈ (s.observe chunk now).1.pending, q.category = p.category := by
  cases hdone : s.isDone with
  | true => simp [raised, hdone] at hp
  | false =>
    simp only [raised, hdone, Bool.false_eq_true, if_false] at hp
    rw [observe_fst hdone]
    exact h.pending_readLines now (s.linesRead chunk) (.inr hp)

end Session
end ContractAssist
