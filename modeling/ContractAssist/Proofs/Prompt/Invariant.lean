import ContractAssist.Proofs.Prompt.Step

/-!
# Invariant — what holds of a session at all times

`Session.Sound` ties the state, the flags and the queue of a session together.  None of its clauses
is kept by itself: that a question is not asked twice needs the flags of the questions that wait,
and these need that no two of them share a category.

1. each of the four operations keeps `Sound`, so it holds after any run (`sound_after`);
2. the tail is one unterminated line of bounded size (`tidyTail_after`);
3. `invariant_after` says it all at once, about the parts of the session.
-/

namespace ContractAssist
namespace Session

/-! ## The invariant -/

/-- The questions that are still to be handed out, first come first. -/
def pending (s : Session) : List Prompt :=
  s.current ++ s.queue

/-- A question that a session may still hand out. -/
structure Admits (s : Session) (p : Prompt) : Prop where
  unhandled : p.handled = false
  -- no question of its category counts as asked
  unasked : s.handled.get p.category = false
  -- its text has no blanks around it
  trimmed : Text.trim p.text = p.text
  asks : classify p.text = .prompt p.kind ∨ classify p.text = .passwordRejected (some p.kind)

/-- How state, flags and queue hang together. -/
structure Sound (s : Session) : Prop where
  -- at most one question of each category is to be handed out
  categories : (s.pending.map Prompt.category).Nodup
  -- every question that is to be handed out may be
  admitted : ∀ p ∈ s.pending, s.Admits p
  -- questions wait only behind another one
  idle : s.state = .idle → s.queue = []
  -- the question about a keypair is not asked again while it is answered
  resolving : s.state = .resolving .keypair → s.handled.keypair = true
  done : s.state = .done → s.queue = []

variable {s : Session}

/-- With nothing to do, nothing is pending. -/
theorem Sound.pending_of_idle (h : s.Sound) (hidle : s.state = .idle) : s.pending = [] := by
  rw [pending, h.idle hidle, List.append_nil]
  exact current_eq_nil (by simp [hidle])

/-- A question as it stands on a line may be handed out. -/
theorem admits_fresh {kind : PromptKind} {line : Text}
    (hclear : s.handled.get kind.category = false)
    (hkind : (classify line).question? = some kind) : s.Admits (.fresh kind line) where
  unhandled := rfl
  unasked := hclear
  trimmed := Text.trim_trim line
  asks := by
    have h : (classify (Text.trim line)).question? = some kind := by rw [classify_trim, hkind]
    exact LineClass.question?_eq_some_iff.1 h

/-- Fewer flags admit more. -/
theorem Admits.of_handled {s' : Session} {p : Prompt} (h : s.Admits p)
    (hclear : s'.handled.get p.category = false) : s'.Admits p :=
  ⟨h.unhandled, hclear, h.trimmed, h.asks⟩

theorem sound_new (debounce : Duration) : (new debounce).Sound where
  categories := List.nodup_nil
  admitted := by
    intro p hp
    exact absurd hp List.not_mem_nil
  idle := fun _ => rfl
  resolving := by
    intro h
    cases h
  done := fun _ => rfl

/-! ## Reading keeps the invariant -/

theorem Sound.reopened (h : s.Sound) : s.reopened.Sound where
  categories := h.categories
  admitted := by
    intro p hp
    have hadmitted := h.admitted p hp
    exact hadmitted.of_handled (HandledFlags.get_set_false_of_clear .password hadmitted.unasked)
  idle := h.idle
  resolving := h.resolving
  done := h.done

theorem Sound.tail (h : s.Sound) (tail : Text) : { s with tail := tail }.Sound :=
  ⟨h.categories, fun p hp => (h.admitted p hp).of_handled (h.admitted p hp).unasked, h.idle,
    h.resolving, h.done⟩

/-- A question may start to wait behind one of another category, or behind one being answered. -/
theorem Sound.enqueue (h : s.Sound) {p : Prompt} (hp : s.Admits p) (hidle : s.state ≠ .idle)
    (hdone : s.state ≠ .done) (hother : ∀ q ∈ s.current, q.category ≠ p.category) :
    { s with queue := enqueue p s.queue }.Sound where
  categories := by
    have hnodup := h.categories
    simp only [pending, List.map_append] at hnodup ⊢
    obtain ⟨hcurrent, hqueue, hdisjoint⟩ := List.nodup_append.1 hnodup
    refine List.nodup_append.2 ⟨hcurrent, nodup_enqueue hqueue, ?_⟩
    intro c hc d hd
    have hne : c ≠ p.category := by
      obtain ⟨q, hq, rfl⟩ := List.mem_map.1 hc
      exact hother q hq
    -- a known category keeps its place in the queue, a new one comes last
    rw [category_enqueue] at hd
    split at hd
    · exact hdisjoint c hc d hd
    · rcases List.mem_append.1 hd with hd | hd
      · exact hdisjoint c hc d hd
      · rwa [List.mem_singleton.1 hd]
  admitted := by
    intro q hq
    have hmem : q = p ∨ q ∈ s.pending := by
      rcases List.mem_append.1 hq with hq | hq
      · exact .inr (List.mem_append_left _ hq)
      · exact (mem_enqueue hq).imp id (List.mem_append_right _)
    rcases hmem with rfl | hmem
    · exact hp.of_handled hp.unasked
    · exact (h.admitted q hmem).of_handled (h.admitted q hmem).unasked
  idle := fun h => absurd h hidle
  resolving := h.resolving
  done := fun h => absurd h hdone

theorem Sound.register (h : s.Sound) {kind : PromptKind} {line : Text} (now : Instant)
    (hkind : (classify line).question? = some kind) : (s.register kind line now).1.Sound := by
  rcases register_cases s kind line now with
    ⟨-, hreg⟩ | ⟨hclear, hidle, hreg⟩ | ⟨current, readyAt, hclear, hstate, hsame, hreg⟩ |
      ⟨hclear, hidle, hdone, hother, hreg⟩
  · rw [hreg]
    exact h
  · -- the question becomes the current one; nothing can wait behind it yet
    rw [hreg]
    have hqueue : s.queue = [] := h.idle hidle
    refine ⟨?_, ?_, by simp, by simp, by simp⟩
    · simp [pending, Session.current, hqueue]
    · intro p hp
      have hp : p = .fresh kind line := by
        simpa [pending, Session.current, hqueue] using hp
      rw [hp]
      exact (admits_fresh hclear hkind).of_handled hclear
  · -- the current question gives up its text, but not its place
    rw [hreg]
    have hcurrent : current ∈ s.pending := by simp [pending, current_awaiting hstate]
    have hunhandled : current.handled = false := (h.admitted current hcurrent).unhandled
    refine ⟨?_, ?_, by simp, by simp, by simp⟩
    · have hnodup := h.categories
      simp only [pending, current_awaiting hstate, List.singleton_append, List.map_cons] at hnodup
      simpa [pending, Session.current, Prompt.category, Prompt.fresh, ← hsame] using hnodup
    · intro p hp
      rcases List.mem_cons.1 hp with rfl | hp
      · have hfresh := admits_fresh (s := s) hclear hkind
        exact ⟨hunhandled, hclear, hfresh.trimmed, hfresh.asks⟩
      · have hold := h.admitted p (List.mem_append_right _ hp)
        exact hold.of_handled hold.unasked
  · rw [hreg]
    exact h.enqueue (admits_fresh hclear hkind) hidle hdone hother

/-! ## Handing out keeps the invariant -/

theorem Sound.takeReady (h : s.Sound) (now : Instant) : (s.takeReady now).1.Sound := by
  rcases takeReady_cases s now with htake | ⟨prompt, readyAt, hstate, -, htake⟩
  · rw [htake]
    exact h
  · rw [htake]
    have hpending : s.pending = prompt :: s.queue := by
      simp [pending, current_awaiting hstate]
    have hnodup := h.categories
    rw [hpending, List.map_cons, List.nodup_cons] at hnodup
    refine ⟨hnodup.2, ?_, by simp, ?_, by simp⟩
    · -- whatever waits is of another category, so the new flag does not concern it
      intro p hp
      have hold := h.admitted p (by rw [hpending]; exact List.mem_cons_of_mem prompt hp)
      have hne : p.category ≠ prompt.category := by
        intro heq
        exact hnodup.1 (heq ▸ List.mem_map_of_mem hp)
      exact hold.of_handled ((HandledFlags.get_set_of_ne s.handled true hne).trans hold.unasked)
    · intro hkeypair
      have hkind : prompt.kind = .keypair := by simpa using hkeypair
      simp [Prompt.category, hkind, PromptKind.category, HandledFlags.set]

/-- No question in the queue is passed over. -/
theorem Sound.dropWhile_queue (h : s.Sound) :
    (s.queue.dropWhile fun p => s.handled.get p.category) = s.queue := by
  cases hqueue : s.queue with
  | nil => rfl
  | cons p r =>
    have hp : s.handled.get p.category = false :=
      (h.admitted p (by simp [pending, hqueue])).unasked
    simp [hp]

/-- Once a question was dealt with, the first one in the queue is the current one. -/
theorem Sound.finishResolution_eq (h : s.Sound) (hresolving : s.isResolving = true)
    (now : Instant) :
    s.finishResolution now =
      match s.queue with
      | [] => { s with state := .idle, queue := [] }
      | p :: r => { s with state := .awaiting p now, queue := r } := by
  have hdrop := h.dropWhile_queue
  cases hqueue : s.queue with
  | nil => simp [Session.finishResolution, hresolving, hqueue]
  | cons p r =>
    rw [hqueue] at hdrop
    simp only [Session.finishResolution, hresolving, if_true, hqueue, hdrop]

theorem Sound.finishResolution (h : s.Sound) (now : Instant) : (s.finishResolution now).Sound := by
  cases hresolving : s.isResolving with
  | false =>
    have hsame : s.finishResolution now = s := by simp [Session.finishResolution, hresolving]
    rw [hsame]
    exact h
  | true =>
    have hpending : s.pending = s.queue := by simp [pending, current_of_isResolving hresolving]
    rw [h.finishResolution_eq hresolving]
    cases hqueue : s.queue with
    | nil => exact ⟨List.nodup_nil, by simp [pending, Session.current], by simp, by simp, by simp⟩
    | cons p r =>
      -- nothing was current, so the head of the queue steps forward and no question is lost
      have hnew : ({ s with state := .awaiting p now, queue := r } : Session).pending =
          s.pending := by
        rw [hpending, hqueue]
        rfl
      refine ⟨hnew ▸ h.categories, ?_, by simp, by simp, by simp⟩
      intro q hq
      have hold := h.admitted q (hnew ▸ hq)
      exact hold.of_handled hold.unasked

theorem Sound.markDone (s : Session) : s.markDone.Sound :=
  ⟨List.nodup_nil, by simp [pending, Session.current, Session.markDone], fun _ => rfl,
    by simp [Session.markDone], fun _ => rfl⟩

theorem Sound.perform (h : s.Sound) (op : Operation) : (s.perform op).Sound := by
  cases op with
  | observe chunk now =>
    exact observe_induction (fun s hs => hs.reopened)
      (fun s kind line hkind hs => hs.register now hkind) (fun s tail hs => hs.tail tail) h chunk
  | takeReady now => exact h.takeReady now
  | finishResolution now => exact h.finishResolution now
  | markDone => exact Sound.markDone s

/-- The session is what some run makes of a new one. -/
def Reachable (s : Session) : Prop :=
  ∃ debounce operations, (new debounce).after operations = s

theorem sound_after (debounce : Duration) (operations : List Operation) :
    ((new debounce).after operations).Sound :=
  after_induction (sound_new debounce) (fun _ op hs => hs.perform op) operations

theorem Reachable.sound (h : s.Reachable) : s.Sound := by
  obtain ⟨debounce, operations, rfl⟩ := h
  exact sound_after debounce operations

/-! ## The tail -/

/-- The tail is one unterminated line of bounded size, and gone at the end. -/
structure TidyTail (s : Session) : Prop where
  unbroken : Text.LineBreakFree s.tail
  bounded : Text.byteSize s.tail ≤ tailLimit
  done : s.isDone = true → s.tail = []

theorem clip_suffix (line : Text) : clip line <:+ line :=
  Text.dropBytes_suffix _ line

theorem byteSize_clip_le (line : Text) : Text.byteSize (clip line) ≤ tailLimit := by
  have h := Text.byteSize_dropBytes_le (Text.byteSize line - tailLimit) line
  unfold clip
  omega

theorem clip_of_le {line : Text} (h : Text.byteSize line ≤ tailLimit) : clip line = line := by
  rw [clip, Nat.sub_eq_zero_of_le h]
  cases line <;> rfl

/-- A chunk without breaks is added to the tail, which is kept as a whole if it is short. -/
theorem observe_tail_of_le {chunk : Text} (hdone : s.isDone = false)
    (hchunk : Text.LineBreakFree chunk) (hsize : Text.byteSize (s.tail ++ chunk) ≤ tailLimit)
    (now : Instant) : (s.observe chunk now).1.tail = s.tail ++ chunk := by
  rw [observe_unbroken hdone hchunk]
  exact clip_of_le hsize

/-- A chunk leaves one line unterminated, which goes on from the tail if the chunk has no break. -/
theorem lineBreakFree_openLine (h : Text.LineBreakFree s.tail) (chunk : Text) :
    Text.LineBreakFree (s.openLine chunk) := by
  obtain ⟨hfirst, hothers⟩ := Text.lineBreakFree_lines chunk
  unfold openLine
  split
  · rename_i l hlast
    exact hothers l (List.mem_of_getLast? hlast)
  · exact h.append hfirst

theorem TidyTail.observe (h : s.TidyTail) (chunk : Text) (now : Instant) :
    (s.observe chunk now).1.TidyTail := by
  cases hdone : s.isDone with
  | true =>
    rw [observe_done hdone]
    exact h
  | false =>
    have hlater : (s.observe chunk now).1.isDone = false := by rw [observe_isDone, hdone]
    have htail : (s.observe chunk now).1.tail = clip (s.openLine chunk) := by
      rw [observe_fst hdone]
    refine ⟨?_, ?_, by simp [hlater]⟩
    · rw [htail]
      exact (lineBreakFree_openLine h.unbroken chunk).of_part (clip_suffix _).isInfix
    · rw [htail]
      exact byteSize_clip_le _

/-- Whatever leaves the tail alone, and does not end the handling of questions, leaves it tidy. -/
theorem TidyTail.of_eq {s' : Session} (h : s.TidyTail) (htail : s'.tail = s.tail)
    (hdone : s'.isDone = s.isDone) : s'.TidyTail :=
  ⟨htail ▸ h.unbroken, htail ▸ h.bounded, fun hd => htail.trans (h.done (hdone ▸ hd))⟩

theorem TidyTail.perform (h : s.TidyTail) (op : Operation) : (s.perform op).TidyTail := by
  cases op with
  | observe chunk now => exact h.observe chunk now
  | takeReady now => exact h.of_eq (takeReady_tail s now) (takeReady_isDone s now)
  | finishResolution now =>
    exact h.of_eq (finishResolution_tail s now) (finishResolution_isDone s now)
  | markDone =>
    refine ⟨?_, Nat.zero_le _, fun _ => rfl⟩
    intro c hc
    exact absurd hc List.not_mem_nil

theorem tidyTail_after (debounce : Duration) (operations : List Operation) :
    ((new debounce).after operations).TidyTail := by
  refine after_induction ⟨?_, Nat.zero_le _, fun _ => rfl⟩ (fun _ op hs => hs.perform op) operations
  intro c hc
  exact absurd hc List.not_mem_nil

/-! ## All at once -/

/-- What holds of a session after any run, whatever the chunks and the instants. -/
theorem invariant_after (debounce : Duration) (operations : List Operation) :
    let s := (new debounce).after operations
    (s.queue.map Prompt.category).Nodup ∧
    (∀ p ∈ s.queue, s.Admits p) ∧
    (∀ p readyAt, s.state = .awaiting p readyAt →
      s.Admits p ∧ p.category ∉ s.queue.map Prompt.category) ∧
    (s.state = .idle → s.queue = []) ∧
    (s.state = .resolving .keypair → s.handled.keypair = true) ∧
    (s.state = .done →
      s.queue = [] ∧ s.tail = [] ∧ (∀ op, (s.perform op).state = .done) ∧
        ∀ chunk now, (s.observe chunk now).2 = ⟨false, chunk⟩) ∧
    Text.LineBreakFree s.tail ∧
    Text.byteSize s.tail ≤ 4096 := by
  intro s
  have hsound : s.Sound := sound_after debounce operations
  have htail : s.TidyTail := tidyTail_after debounce operations
  have hnodup := hsound.categories
  rw [pending, List.map_append] at hnodup
  refine ⟨(List.nodup_append.1 hnodup).2.1, ?_, ?_, hsound.idle, hsound.resolving, ?_,
    htail.unbroken, htail.bounded⟩
  · intro p hp
    exact hsound.admitted p (List.mem_append_right _ hp)
  · intro p readyAt hstate
    rw [current_awaiting hstate] at hnodup
    refine ⟨hsound.admitted p (by simp [pending, current_awaiting hstate]), ?_⟩
    exact (List.nodup_cons.1 hnodup).1
  · intro hstate
    have hdone : s.isDone = true := isDone_iff.2 hstate
    refine ⟨hsound.done hstate, htail.done hdone, ?_, ?_⟩
    · intro op
      rw [← isDone_iff, perform_isDone, hdone, Bool.true_or]
    · intro chunk now
      rw [observe_done hdone]

end Session
end ContractAssist
