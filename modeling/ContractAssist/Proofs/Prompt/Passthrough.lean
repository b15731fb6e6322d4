import ContractAssist.Proofs.Prompt.Offset
import ContractAssist.Proofs.Prompt.Pending

/-!
# Passthrough — what of a chunk is shown

A chunk is shown but for the lines that register a question.  This module says which these are,
line by line, and that nothing else is lost:

1. `Registers` says when a line registers a question, `registers_cases` what the session does then;
2. `registered` marks the lines of a chunk, and `getElem?_registered` reads such a mark in the
   session that the lines in front have left behind;
3. `observe_snd`: what is shown are the parts of the chunk that are not marked;
4. `observe_shows` puts these together for any session.
-/

namespace ContractAssist
namespace Session

open Text

variable {s : Session}

/-! ## Lines that register a question -/

/-- Questions are handled, the line asks one, and it does not count as asked by then. -/
def Registers (s : Session) (line : Bool × Text) (kind : PromptKind) : Prop :=
  s.isDone = false ∧ (classify line.2).question? = some kind ∧
    (s.noticed line.1 line.2).handled.get kind.category = false

theorem register_of_isDone (h : s.isDone = true) (kind : PromptKind) (line : Text) (now : Instant) :
    s.register kind line now = (s, false) := by
  simp [register, isDone_iff.1 h]

/-- Where questions are not handled, a line says nothing, and so it stays. -/
theorem readLine_of_isDone (h : s.isDone = true) (now : Instant) (news : Bool) (line : Text) :
    (s.readLine now news line).2 = false ∧ (s.readLine now news line).1.isDone = true := by
  have hnoticed : (s.noticed news line).isDone = true := by
    rw [isDone_iff, noticed_state]
    exact isDone_iff.1 h
  rcases readLine_cases s now news line with hread | ⟨kind, -, hread⟩
  · rw [hread]
    exact ⟨rfl, hnoticed⟩
  · rw [hread, register_of_isDone hnoticed]
    exact ⟨rfl, hnoticed⟩

/-- A line registers its question, which is pending then, or leaves what is pending alone. -/
theorem Sound.registers_cases (h : s.Sound) (now : Instant) (line : Bool × Text) :
    let read := s.readLine now line.1 line.2
    (read.2 = true ∧
      ∃ kind, s.Registers line kind ∧ Placed (.fresh kind line.2) s.pending read.1.pending) ∨
    (read.2 = false ∧ (∀ kind, ¬ s.Registers line kind) ∧ read.1.pending = s.pending) := by
  intro read
  have hpending := noticed_pending s line.1 line.2
  have hread : read = _ := readLine_eq s now line.1 line.2
  cases hkind : (classify line.2).question? with
  | none =>
    simp only [hkind] at hread
    refine .inr ⟨by rw [hread], ?_, by rw [hread, hpending]⟩
    rintro kind ⟨-, hasks, -⟩
    rw [hkind] at hasks
    cases hasks
  | some kind =>
    simp only [hkind] at hread
    rcases (h.noticed line.1 line.2).register_pending kind line.2 now with
      ⟨hignored, hreg⟩ | ⟨hclear, hasked, hplaced⟩
    · refine .inr ⟨by rw [hread, hreg], ?_, by rw [hread, hreg, hpending]⟩
      rintro kind' ⟨hdone, hasks, hclear⟩
      obtain rfl : kind = kind' := Option.some.inj (hkind.symm.trans hasks)
      -- the flag is looked up behind the notice of the line, so it may have been cleared by it
      rcases hignored with hset | hended
      · rw [hclear] at hset
        cases hset
      · rw [noticed_state, ← isDone_iff, hdone] at hended
        cases hended
    · have hread2 : read.2 = true := by rw [hread, hasked]
      refine .inl ⟨hread2, kind, ⟨?_, hkind, hclear⟩, ?_⟩
      · cases hdone : s.isDone with
        | false => rfl
        | true =>
          have hnothing : read.2 = false := (readLine_of_isDone hdone now line.1 line.2).1
          exact absurd (hread2.symm.trans hnothing) (by decide)
      · rw [hread, ← hpending]
        exact hplaced

/-- Which of these lines register a question, which are read one after another. -/
def registered (s : Session) (now : Instant) : List (Bool × Text) → List Bool
  | [] => []
  | l :: r => (s.readLine now l.1 l.2).2 :: (s.readLine now l.1 l.2).1.registered now r

theorem length_registered (s : Session) (now : Instant) (lines : List (Bool × Text)) :
    (s.registered now lines).length = lines.length := by
  induction lines generalizing s with
  | nil => rfl
  | cons l r ih => rw [registered, List.length_cons, List.length_cons, ih]

/-- A line is read in the session that the lines in front of it have left behind. -/
theorem getElem?_registered (s : Session) (now : Instant) (lines : List (Bool × Text)) (i : Nat) :
    (s.registered now lines)[i]? =
      lines[i]?.map fun l => ((s.readLines now (lines.take i)).readLine now l.1 l.2).2 := by
  induction lines generalizing s i with
  | nil => rfl
  | cons l r ih =>
    cases i with
    | zero => rfl
    | succ i =>
      rw [registered, List.getElem?_cons_succ, List.getElem?_cons_succ, ih, List.take_succ_cons,
        readLines_cons]

theorem Sound.readLines (h : s.Sound) (now : Instant) (lines : List (Bool × Text)) :
    (s.readLines now lines).Sound := by
  induction lines generalizing s with
  | nil => exact h
  | cons l r ih => exact ih (h.readLine now l)

/-- Where questions are not handled, no line registers one. -/
theorem registered_of_isDone (h : s.isDone = true) (now : Instant) (lines : List (Bool × Text)) :
    ∀ mark ∈ s.registered now lines, mark = false := by
  induction lines generalizing s with
  | nil => simp [registered]
  | cons l r ih =>
    obtain ⟨hnothing, hdone⟩ := readLine_of_isDone h now l.1 l.2
    intro mark hmark
    rcases List.mem_cons.1 hmark with rfl | hmark
    · exact hnothing
    · exact ih hdone mark hmark

/-! ## What is shown -/

/-- The parts of a chunk that belong to its lines, with the breaks that end them. -/
def chunkParts (chunk : Text) : List Text :=
  ((lines chunk).1 :: (lines chunk).2).map Line.whole

def unmarked (parts : List Text) (marks : List Bool) : Text :=
  ((parts.zip marks).filter fun part => !part.2).flatMap Prod.fst

theorem unmarked_cons (part : Text) (parts : List Text) (mark : Bool) (marks : List Bool) :
    unmarked (part :: parts) (mark :: marks) =
      (if mark then [] else part) ++ unmarked parts marks := by
  cases mark with
  | true => rfl
  | false => rfl

theorem unmarked_sublist (parts : List Text) (marks : List Bool) :
    (unmarked parts marks).Sublist parts.flatten := by
  induction parts generalizing marks with
  | nil => simp [unmarked]
  | cons part r ih =>
    cases marks with
    | nil => simp [unmarked]
    | cons mark marks =>
      rw [unmarked_cons, List.flatten_cons]
      cases mark with
      | true => exact (ih marks).trans (List.sublist_append_right _ _)
      | false => exact (List.Sublist.refl part).append (ih marks)

theorem unmarked_of_all_false {parts : List Text} {marks : List Bool}
    (hlength : parts.length = marks.length) (h : ∀ mark ∈ marks, mark = false) :
    unmarked parts marks = parts.flatten := by
  induction parts generalizing marks with
  | nil => simp [unmarked]
  | cons part r ih =>
    cases marks with
    | nil => cases hlength
    | cons mark marks =>
      obtain rfl := h mark List.mem_cons_self
      have hrest := ih (Nat.succ.inj hlength) fun m hm => h m (List.mem_cons_of_mem _ hm)
      rw [unmarked_cons, List.flatten_cons, hrest]
      rfl

theorem flatten_chunkParts (chunk : Text) : (chunkParts chunk).flatten = chunk := by
  rw [chunkParts, ← List.flatMap_def]
  exact wholeText_lines chunk

theorem length_chunkParts (s : Session) (chunk : Text) :
    (chunkParts chunk).length = (s.linesRead chunk).length := by
  simp [chunkParts, linesRead]

theorem observeLines_snd (s : Session) (now : Instant) (lines : List Line) :
    let marks := s.registered now (lines.map fun l => (true, l.body))
    (s.observeLines now lines).2 = ⟨marks.any id, unmarked (lines.map Line.whole) marks⟩ := by
  induction lines generalizing s with
  | nil => rfl
  | cons l r ih =>
    have hrest := ih (s.readLine now true l.body).1
    simp only [List.map_cons, registered, List.any_cons, unmarked_cons, id]
    simp only [observeLines, observeLine, List.nil_append, hrest, Observation.append]

/-- What is shown are the parts of the chunk whose lines register nothing. -/
theorem observe_snd (s : Session) (chunk : Text) (now : Instant) :
    let marks := s.registered now (s.linesRead chunk)
    (s.observe chunk now).2 = ⟨marks.any id, unmarked (chunkParts chunk) marks⟩ := by
  intro marks
  cases hdone : s.isDone with
  | true =>
    have hnone : ∀ mark ∈ marks, mark = false := registered_of_isDone hdone now _
    have hlength : (chunkParts chunk).length = marks.length := by
      rw [length_registered, length_chunkParts]
    have hany : marks.any id = false := by
      rw [List.any_eq_false]
      intro mark hmark
      rw [hnone mark hmark]
      decide
    rw [observe_done hdone, hany, unmarked_of_all_false hlength hnone, flatten_chunkParts]
  | false =>
    have hrest := observeLines_snd
      (s.readLine now (!s.carriesSignal) (s.tail ++ (lines chunk).1.body)).1 now (lines chunk).2
    simp only [marks, linesRead, chunkParts, List.map_cons, registered, List.any_cons,
      unmarked_cons, id]
    simp only [observe_eq hdone, observeLine, hrest, Observation.append]

/-- What of a chunk is shown, told by the lines that the session reads. -/
structure Shows (s : Session) (chunk : Text) (now : Instant) (seen : Observation) : Prop where
  -- each of the lines has its part of the chunk, and there is nothing else
  parts : (chunkParts chunk).flatten = chunk ∧
    (chunkParts chunk).length = (s.linesRead chunk).length
  -- all parts are shown, in their order, but those whose lines register a question
  passthrough : seen.passthrough =
    unmarked (chunkParts chunk) (s.registered now (s.linesRead chunk))
  -- the chunk is reported iff there is such a line
  prompt : seen.prompt = (s.registered now (s.linesRead chunk)).any id
  -- a line registers its question in the session that the lines in front have left behind
  lines : ∀ i line, (s.linesRead chunk)[i]? = some line →
    let before := s.readLines now ((s.linesRead chunk).take i)
    let pending := (before.readLine now line.1 line.2).1.pending
    ((s.registered now (s.linesRead chunk))[i]? = some true ∧
      ∃ kind, before.Registers line kind ∧ Placed (.fresh kind line.2) before.pending pending) ∨
    ((s.registered now (s.linesRead chunk))[i]? = some false ∧
      (∀ kind, ¬ before.Registers line kind) ∧ pending = before.pending)

theorem Sound.shows (h : s.Sound) (chunk : Text) (now : Instant) :
    s.Shows chunk now (s.observe chunk now).2 where
  parts := ⟨flatten_chunkParts chunk, length_chunkParts s chunk⟩
  passthrough := by rw [observe_snd]
  prompt := by rw [observe_snd]
  lines := by
    intro i line hline before pending
    have hmark := getElem?_registered s now (s.linesRead chunk) i
    rw [hline, Option.map_some] at hmark
    have hbefore : before.Sound := h.readLines now _
    rcases hbefore.registers_cases now line with ⟨hasked, hregisters⟩ | ⟨hasked, hquiet⟩
    · exact .inl ⟨hmark.trans (congrArg some hasked), hregisters⟩
    · exact .inr ⟨hmark.trans (congrArg some hasked), hquiet⟩

/-- Nothing is shown that is not in the chunk, or not where it was. -/
theorem Shows.sublist {chunk : Text} {now : Instant} {seen : Observation}
    (h : s.Shows chunk now seen) : seen.passthrough.Sublist chunk := by
  have hsublist := unmarked_sublist (chunkParts chunk) (s.registered now (s.linesRead chunk))
  rwa [← h.passthrough, flatten_chunkParts] at hsublist

/-- A chunk that registers nothing is shown as it is. -/
theorem Shows.eq_of_quiet {chunk : Text} {now : Instant} {seen : Observation}
    (h : s.Shows chunk now seen) (hquiet : seen.prompt = false) : seen.passthrough = chunk := by
  have hlength : (chunkParts chunk).length = (s.registered now (s.linesRead chunk)).length := by
    rw [length_registered, length_chunkParts]
  rw [h.prompt, List.any_eq_false] at hquiet
  rw [h.passthrough, unmarked_of_all_false hlength, flatten_chunkParts]
  intro mark hmark
  simpa using hquiet mark hmark

theorem isDone_after_markDone (s : Session) (operations : List Operation) :
    (s.markDone.after operations).isDone = true := by
  refine after_induction (P := fun s' => s'.isDone = true) rfl ?_ operations
  intro s' op hs'
  rw [perform_isDone, hs', Bool.true_or]

/--
A chunk is shown but for the parts of it whose lines register a question.  Nothing of earlier chunks
is shown with it, and where no question is registered, all of it is shown.
-/
theorem observe_shows (debounce : Duration) (operations : List Operation) (chunk : Text)
    (now : Instant) :
    let s := (new debounce).after operations
    ∃ s' seen, s.observeByOffset chunk now = some (s', seen) ∧ s.observe chunk now = (s', seen) ∧
      s.Shows chunk now seen ∧ seen.passthrough.Sublist chunk ∧
      (seen.prompt = false → seen.passthrough = chunk) ∧
      ∀ later, (s.markDone.after later).observeByOffset chunk now =
          some (s.markDone.after later, ⟨false, chunk⟩) ∧
        (s.markDone.after later).observe chunk now = (s.markDone.after later, ⟨false, chunk⟩) := by
  intro s
  have htidy : s.TidyTail := tidyTail_after debounce operations
  have hshows : s.Shows chunk now (s.observe chunk now).2 :=
    (sound_after debounce operations).shows chunk now
  refine ⟨(s.observe chunk now).1, (s.observe chunk now).2,
    observeByOffset_eq htidy.unbroken chunk now, rfl, hshows, hshows.sublist, hshows.eq_of_quiet,
    ?_⟩
  intro later
  have hdone := isDone_after_markDone s later
  refine ⟨?_, observe_done hdone chunk now⟩
  rw [observeByOffset, if_pos hdone]

/-- The line that asks is hidden with the break that ends it. -/
example : ((new ⟨9⟩).observe "compiling\nEnter password:\rlinking".toList ⟨0⟩).2 =
    ⟨true, "compiling\nlinking".toList⟩ := by
  decide +kernel

end Session
end ContractAssist
