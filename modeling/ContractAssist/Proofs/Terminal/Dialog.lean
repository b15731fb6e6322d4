import ContractAssist.Proofs.Text.Basic
import ContractAssist.Proofs.Text.ByteLines
import ContractAssist.Terminal.Dialog

/-!
# Dialog — a question that is asked again

A yes-or-no question is shown before each line that is read, until a line answers it.  What is left
of the input belongs to the next question, so no byte more may be read than the lines that were
asked for.

1. `shown` is the console after so many questions, with so many lines left, and `round_eq` says that
   a round leads from one such console to the next;
2. `Ends` lists how a dialogue ends behind the lines that it passed over, and `Dialogue` is a whole
   one;
3. `confirm_cases` is what one round comes to, and `confirm_ends` what all of them do.
-/

namespace ContractAssist

open Utf8 (LinesOf)

theorem YesNo.read?_of_allBlank {text : Text} (h : Text.allBlank text = true) :
    read? text = some true := by
  have hnothing : Text.Trimmed [] := ⟨nofun, nofun⟩
  have htrim : Text.trim text = [] := by
    simpa using Text.trim_padded h (rfl : Text.allBlank [] = true) hnothing
  simp [read?, htrim, lower]

namespace Console

variable {c : Console}

theorem hears_of_complaintsEnd (h : c.complaintsEnd = none) : c.hears = true := by
  rw [hears, h]

theorem complain_of_hears (h : c.hears = true) (t : Text) :
    c.complain t = { c with complaints := t :: c.complaints } :=
  if_pos h

end Console

namespace Dialog

variable {p : Palette} {question : Text} {c : Console} {line : Bytes} {lines left : List Bytes}

/-! ## One round -/

/-- The console after a question was shown so often, with these lines left in the input. -/
def shown (p : Palette) (question : Text) (c : Console) (times : Nat) (left : List Bytes) :
    Console :=
  { c with
    input := left.flatten
    complaints := List.replicate times (confirmText p question) ++ c.complaints }

theorem shown_zero (h : LinesOf c.input lines) : shown p question c 0 lines = c := by
  rw [shown, h.flatten_eq]
  rfl

theorem shown_shown (times : Nat) :
    shown p question (shown p question c 1 lines) times left =
      shown p question c (times + 1) left := by
  simp [shown, List.replicate_succ']

theorem round_eq (hhears : c.hears = true) (h : LinesOf c.input (line :: left)) :
    round p question c = (line, shown p question c 1 left) := by
  rw [round, Console.complain_of_hears hhears, Console.readLine, h.firstLine_eq]
  rfl

theorem round_of_inputEnd (hhears : c.hears = true) (h : c.input = []) :
    round p question c = ([], shown p question c 1 []) := by
  rw [round, Console.complain_of_hears hhears, Console.readLine, h]
  rfl

/-! ## Dialogues -/

/-- The line can be read, but it is no answer. -/
def PassedOver (line : Bytes) : Prop :=
  ∃ text, Utf8.decode? line = some text ∧ YesNo.read? text = none

/--
How a dialogue ends: the console when all lines that were passed over have been read, the lines that
are left then, the answer, and the console afterwards.
-/
inductive Ends (p : Palette) (question : Text) (c : Console) :
    List Bytes → Option Bool → Console → Prop where
  -- the question cannot be shown any more; nothing more is read
  | unseen {left : List Bytes} (h : c.hears = false) : Ends p question c left none c
  -- the question is shown, and the input is at its end
  | inputEnded (h : c.hears = true) :
      Ends p question c [] none ((shown p question c 1 []).complain "\n")
  -- the question is shown, and the next line is not UTF-8
  | undecodable {line : Bytes} {left : List Bytes} (h : c.hears = true)
      (hdecode : Utf8.decode? line = none) :
      Ends p question c (line :: left) none (shown p question c 1 left)
  -- the question is shown, and the next line answers it
  | answered {line : Bytes} {left : List Bytes} {text : Text} {yes : Bool} (h : c.hears = true)
      (hdecode : Utf8.decode? line = some text) (hread : YesNo.read? text = some yes) :
      Ends p question c (line :: left) (some yes) (shown p question c 1 left)

/-- How a dialogue goes: some lines are passed over, and then it ends. -/
structure Dialogue (p : Palette) (question : Text) (c : Console) (passed left : List Bytes)
    (answer : Option Bool) (after : Console) : Prop where
  -- the first lines are no answers
  passedOver : ∀ line ∈ passed, PassedOver line
  -- the question was seen before each of them was read
  seen : ∀ k < passed.length, (shown p question c k ((passed ++ left).drop k)).hears = true
  ends : Ends p question (shown p question c passed.length left) left answer after

namespace Dialogue

variable {answer : Option Bool} {after : Console}

theorem of_ends (h : LinesOf c.input left) (hends : Ends p question c left answer after) :
    Dialogue p question c [] left answer after where
  passedOver := nofun
  seen := nofun
  ends := by
    rw [List.length_nil, shown_zero h]
    exact hends

/-- In front of a dialogue, the question is shown once more and a line is passed over. -/
theorem cons {passed : List Bytes} (hlines : LinesOf c.input (line :: (passed ++ left)))
    (hhears : c.hears = true) (hpassed : PassedOver line)
    (h : Dialogue p question (shown p question c 1 (passed ++ left)) passed left answer after) :
    Dialogue p question c (line :: passed) left answer after where
  passedOver := List.forall_mem_cons.2 ⟨hpassed, h.passedOver⟩
  seen := by
    intro k hk
    cases k with
    | zero =>
      rw [List.drop_zero, List.cons_append, shown_zero hlines]
      exact hhears
    | succ k =>
      have hseen := h.seen k (Nat.lt_of_succ_lt_succ hk)
      rwa [shown_shown] at hseen
  ends := by
    have hends := h.ends
    rwa [shown_shown] at hends

end Dialogue

/-! ## The question -/

theorem confirm_of_inputEnd (hhears : c.hears = true) (h : c.input = []) :
    confirm p c question = (none, (shown p question c 1 []).complain "\n") := by
  rw [confirm, hhears, round_of_inputEnd hhears h]
  rfl

theorem confirm_of_line (hhears : c.hears = true) (h : LinesOf c.input (line :: left)) :
    confirm p c question =
      match Utf8.decode? line with
      | none => (none, shown p question c 1 left)
      | some text =>
        match YesNo.read? text with
        | some yes => (some yes, shown p question c 1 left)
        | none => confirm p (shown p question c 1 left) question := by
  rw [confirm, hhears, round_eq hhears h]
  simp only [h.ne_nil]
  rfl

/-- Either the dialogue ends at once, or a line is passed over and the question is asked again. -/
theorem confirm_cases (h : LinesOf c.input lines) :
    Ends p question c lines (confirm p c question).1 (confirm p c question).2 ∨
      ∃ line left, lines = line :: left ∧ c.hears = true ∧ PassedOver line ∧
        confirm p c question = confirm p (shown p question c 1 left) question := by
  -- nothing is read before the question was seen
  cases hhears : c.hears with
  | false =>
    have hconfirm : confirm p c question = (none, c) := by
      rw [confirm, hhears]
      rfl
    rw [hconfirm]
    exact .inl (.unseen hhears)
  | true =>
    cases lines with
    | nil =>
      rw [confirm_of_inputEnd hhears (h.eq_nil_iff.1 rfl)]
      exact .inl (.inputEnded hhears)
    | cons line left =>
      have hconfirm := @confirm_of_line p question c line left hhears h
      cases hdecode : Utf8.decode? line with
      | none =>
        rw [hconfirm, hdecode]
        exact .inl (.undecodable hhears hdecode)
      | some text =>
        cases hread : YesNo.read? text with
        | some yes =>
          simp only [hconfirm, hdecode, hread]
          exact .inl (.answered hhears hdecode hread)
        | none =>
          refine .inr ⟨line, left, rfl, rfl, ⟨text, hdecode, hread⟩, ?_⟩
          simp only [hconfirm, hdecode, hread]

/-- By induction on the lines: a round takes one of them away. -/
theorem exists_dialogue (h : LinesOf c.input lines) :
    ∃ passed left, lines = passed ++ left ∧
      Dialogue p question c passed left (confirm p c question).1 (confirm p c question).2 := by
  induction lines generalizing c with
  | nil =>
    rcases confirm_cases h with hends | ⟨line, left, hcons, -⟩
    · exact ⟨[], [], rfl, .of_ends h hends⟩
    · cases hcons
  | cons line rest ih =>
    rcases confirm_cases h with hends | ⟨line', rest', hcons, hhears, hpassed, hagain⟩
    · exact ⟨[], line :: rest, rfl, .of_ends h hends⟩
    · cases hcons
      -- the others are the lines of what is left to read
      obtain ⟨passed, left, rfl, hdialogue⟩ := ih (c := shown p question c 1 rest) h.tail
      rw [hagain]
      exact ⟨line :: passed, left, rfl, hdialogue.cons h hhears hpassed⟩

/--
A yes-or-no question is shown before each line that is read.  Lines that are no answer are passed
over; then the next line answers it, or the end of the input or a line that is not UTF-8 dismisses
it.  The lines behind are left in the input.  Only where complaints are no longer seen may a
question also be dismissed because it cannot be shown again.
-/
theorem confirm_ends (p : Palette) (c : Console) (question : Text) :
    ∃ passed left, (∀ lines, LinesOf c.input lines ↔ lines = passed ++ left) ∧
      Dialogue p question c passed left (confirm p c question).1 (confirm p c question).2 ∧
      (c.complaintsEnd = none → (shown p question c passed.length left).hears = true) ∧
      ∀ text, Text.allBlank text = true → YesNo.read? text = some true := by
  obtain ⟨lines, hlines⟩ := Utf8.existsUnique_linesOf c.input
  obtain ⟨passed, left, rfl, hdialogue⟩ := exists_dialogue ((hlines lines).2 rfl)
  refine ⟨passed, left, hlines, hdialogue, ?_, fun _ h => YesNo.read?_of_allBlank h⟩
  intro hopen
  exact Console.hears_of_complaintsEnd (c := shown p question c passed.length left) hopen

/-- The first line is passed over, the second one answers, and the third one is left. -/
example : confirm ⟨false, false⟩ ⟨"hm\nNo \ny".toUTF8.toList, [], [], none, none⟩ "Sure?" =
    (some false, ⟨"y".toUTF8.toList, [], ["? Sure? [Y/n] ", "? Sure? [Y/n] "], none, none⟩) := by
  cbv

end Dialog
end ContractAssist
