import ContractAssist.Proofs.Prompt.Offset

/-!
# LineEnd — output that is cut between two lines

Where a program's output is cut into chunks is up to the reads.  A cut in the middle of a line
shows, since the line is read twice; a cut behind a line break does not:

1. `observeLines_append`: lines are read one after another;
2. `observe_of_tail_nil`: without a tail, a chunk is read as its lines;
3. `observe_terminated_append`: two chunks, the first of which ends in a break, are read as one.
-/

namespace ContractAssist

namespace Observation

theorem append_assoc (a b c : Observation) : (a.append b).append c = a.append (b.append c) := by
  simp [append, Bool.or_assoc]

theorem append_nothing (a : Observation) : a.append ⟨false, []⟩ = a := by
  simp [append]

end Observation

namespace Session

open Text

/-! ## Lines one after another -/

theorem observeLines_append (s : Session) (now : Instant) (front later : List Line) :
    let seen := s.observeLines now front
    let rest := seen.1.observeLines now later
    s.observeLines now (front ++ later) = (rest.1, seen.2.append rest.2) := by
  induction front generalizing s with
  | nil => simp [observeLines, Observation.append]
  | cons l r ih =>
    simp only [List.cons_append, observeLines, ih, Observation.append_assoc]

/-- An empty line says nothing. -/
theorem observeLines_empty (s : Session) (now : Instant) :
    s.observeLines now [⟨[], []⟩] = (s, ⟨false, []⟩) := rfl

/-! ## Without a tail -/

theorem carriesSignal_of_tail_nil {s : Session} (h : s.tail = []) : s.carriesSignal = false := by
  simp [carriesSignal, h, allBlank]

/-- Without a tail, the first line of a chunk is read like any other. -/
theorem observe_of_tail_nil {s : Session} (hdone : s.isDone = false) (htail : s.tail = [])
    (chunk : Text) (now : Instant) :
    let read := s.observeLines now ((lines chunk).1 :: (lines chunk).2)
    s.observe chunk now = ({ read.1 with tail := clip (s.openLine chunk) }, read.2) := by
  rw [observe_eq hdone, carriesSignal_of_tail_nil htail, htail]
  rfl

/-- What is left unterminated is the last line, also behind what came before. -/
theorem openLine_terminated_append (s : Session) (front : Text) {c : Char}
    (hc : isLineBreak c = true) (chunk : Text) :
    s.openLine (front ++ [c] ++ chunk) = ({ s with tail := [] } : Session).openLine chunk := by
  obtain ⟨between, -, happend⟩ := lines_append_terminated front hc
  unfold openLine
  rw [happend chunk, List.getLast?_append, List.getLast?_cons]
  cases (lines chunk).2.getLast? with
  | none => rfl
  | some l => rfl

theorem openLine_terminated (s : Session) (front : Text) {c : Char} (hc : isLineBreak c = true) :
    s.openLine (front ++ [c]) = [] := by
  have hnothing := openLine_terminated_append s front hc []
  rwa [List.append_nil] at hnothing

/-! ## Cuts -/

/-- The lines of two chunks, the first of which ends in a break, are those of one chunk. -/
theorem observe_terminated_append (s : Session) (front : Text) {c : Char}
    (hc : isLineBreak c = true) (chunk : Text) (now : Instant) :
    let seen := s.observe (front ++ [c]) now
    let later := seen.1.observe chunk now
    s.observe (front ++ [c] ++ chunk) now = (later.1, seen.2.append later.2) := by
  intro seen later
  cases hdone : s.isDone with
  | true =>
    have hseen : seen = (s, ⟨false, front ++ [c]⟩) := observe_done hdone _ now
    have hlater : later = (s, ⟨false, chunk⟩) := by
      simp only [later, hseen]
      exact observe_done hdone chunk now
    rw [hlater, hseen, observe_done hdone]
    rfl
  | false =>
    obtain ⟨between, hends, happend⟩ := lines_append_terminated front hc
    let first := s.observeLine now (!s.carriesSignal) s.tail (lines (front ++ [c])).1
    let middle := first.1.observeLines now between
    let rest := middle.1.observeLines now ((lines chunk).1 :: (lines chunk).2)
    let tail := clip (({ s with tail := [] } : Session).openLine chunk)
    -- behind the break the first chunk has an empty line, and the second one is read without a tail
    have hseen : seen = ({ middle.1 with tail := [] }, first.2.append middle.2) := by
      simp only [seen]
      rw [observe_eq hdone, hends, observeLines_append, observeLines_empty,
        openLine_terminated s front hc, clip_nil, Observation.append_nothing]
    have hlater : later = ({ rest.1 with tail := tail }, rest.2) := by
      have hseen_done : seen.1.isDone = false := (observe_isDone s _ now).trans hdone
      have hread := observe_of_tail_nil hseen_done (by rw [hseen]) chunk now
      simp only [hseen, observeLines_tail] at hread
      simp only [later, hseen]
      exact hread
    have hwhole : s.observe (front ++ [c] ++ chunk) now =
        ({ rest.1 with tail := tail }, first.2.append (middle.2.append rest.2)) := by
      rw [observe_eq hdone, happend chunk, openLine_terminated_append s front hc]
      simp only [observeLines_append]
      rfl
    rw [hwhole, hlater, hseen, Observation.append_assoc]

/-- To cut output behind a line break changes nothing that a session does or shows. -/
theorem observe_cut_behind_break (debounce : Duration) (operations : List Operation) (a b : Text)
    (now : Instant) (h : a.getLast? = some '\n' ∨ a.getLast? = some '\r') :
    let s := (new debounce).after operations
    ∃ middle seen last later,
      s.observeByOffset a now = some (middle, seen) ∧
      middle.observeByOffset b now = some (last, later) ∧
      s.observeByOffset (a ++ b) now =
        some (last, ⟨seen.prompt || later.prompt, seen.passthrough ++ later.passthrough⟩) ∧
      s.observe a now = (middle, seen) ∧ middle.observe b now = (last, later) ∧
      s.observe (a ++ b) now =
        (last, ⟨seen.prompt || later.prompt, seen.passthrough ++ later.passthrough⟩) := by
  intro s
  have htidy : s.TidyTail := tidyTail_after debounce operations
  have hbreak : ∃ front c, a = front ++ [c] ∧ isLineBreak c = true := by
    rcases h with hlast | hlast
    · obtain ⟨front, hfront⟩ := List.getLast?_eq_some_iff.1 hlast
      exact ⟨front, '\n', hfront, rfl⟩
    · obtain ⟨front, hfront⟩ := List.getLast?_eq_some_iff.1 hlast
      exact ⟨front, '\r', hfront, rfl⟩
  obtain ⟨front, c, rfl, hc⟩ := hbreak
  have hwhole := observe_terminated_append s front hc b now
  refine ⟨_, _, _, _, observeByOffset_eq htidy.unbroken _ now,
    observeByOffset_eq (htidy.observe _ now).unbroken b now, ?_, rfl, rfl, hwhole⟩
  rw [observeByOffset_eq htidy.unbroken, hwhole]
  rfl

/-- A rejection whose end is cut from what follows is hidden, and what follows it is shown. -/
theorem observe_cut_behind_rejection :
    let s := (new ⟨9⟩).after [.observe "Wrong pass".toList ⟨0⟩]
    let a := "word?\r".toList
    let b := "Deploying\n".toList
    a.getLast? = some '\r' ∧
      s.observe (a ++ b) ⟨1⟩ = (((s.observe a ⟨1⟩).1.observe b ⟨1⟩).1, ⟨true, b⟩) := by
  intro s a b
  obtain ⟨middle, seen, last, later, -, -, -, hseen, hlater, hwhole⟩ :=
    observe_cut_behind_break ⟨9⟩ [.observe "Wrong pass".toList ⟨0⟩] a b ⟨1⟩ (.inr rfl)
  have hfirst : (s.observe a ⟨1⟩).2 = ⟨true, []⟩ := by decide +kernel
  have hrest : ((s.observe a ⟨1⟩).1.observe b ⟨1⟩).2 = ⟨false, b⟩ := by decide +kernel
  have hmiddle : s.observe a ⟨1⟩ = (middle, seen) := hseen
  rw [hmiddle] at hfirst hrest ⊢
  simp only [hlater] at hrest ⊢
  have hjoined : s.observe (a ++ b) ⟨1⟩ = _ := hwhole
  obtain rfl : seen = ⟨true, []⟩ := hfirst
  obtain rfl : later = ⟨false, b⟩ := hrest
  exact ⟨rfl, hjoined⟩

end Session
end ContractAssist
