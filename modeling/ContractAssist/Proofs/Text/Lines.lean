import ContractAssist.Proofs.Text.Basic
import ContractAssist.Prompt.Offset

/-!
# Text.Lines — the lines of a text that is put together

1. `wholeText_lines`: the lines with their breaks are the text, and `lines_endings`: there is one
   break behind each line but the last;
2. `lines_append`: characters without a break in front of a text go to its first line, and
   `length_lines_append`: behind a text they go to its last one;
3. `lines_append_terminated`: behind a break, the lines of a text are as they are;
4. `spans_eq`: the spans of a text are where its lines lie.
-/

namespace ContractAssist
namespace Text

/-! ## Lines with their breaks -/

theorem lines_cons_break {c : Char} (h : isLineBreak c = true) (r : Text) :
    lines (c :: r) = (⟨[], [c]⟩, (lines r).1 :: (lines r).2) := by
  simp [lines, h]

theorem lines_cons {c : Char} (h : isLineBreak c = false) (r : Text) :
    lines (c :: r) = ((lines r).1.cons c, (lines r).2) := by
  simp [lines, h]

def wholeText (lines : List Line) : Text :=
  lines.flatMap Line.whole

theorem wholeText_cons (l : Line) (r : List Line) : wholeText (l :: r) = l.whole ++ wholeText r :=
  List.flatMap_cons

theorem wholeText_lines (t : Text) : wholeText ((lines t).1 :: (lines t).2) = t := by
  induction t with
  | nil => rfl
  | cons c r ih =>
    cases hc : isLineBreak c with
    | true =>
      rw [lines_cons_break hc, wholeText_cons, ih]
      rfl
    | false =>
      rw [wholeText_cons] at ih
      rw [lines_cons hc, wholeText_cons]
      exact congrArg (c :: ·) ih

/-- One break ends each line but the last, and there is no other. -/
theorem lines_endings (t : Text) :
    ∃ ended last, (lines t).1 :: (lines t).2 = ended ++ [last] ∧ last.ending = [] ∧
      ∀ l ∈ ended, ∃ c, l.ending = [c] ∧ isLineBreak c = true := by
  induction t with
  | nil => exact ⟨[], ⟨[], []⟩, rfl, rfl, by simp⟩
  | cons c r ih =>
    obtain ⟨ended, last, hlines, hlast, hended⟩ := ih
    cases hc : isLineBreak c with
    | true =>
      refine ⟨⟨[], [c]⟩ :: ended, last, ?_, hlast, ?_⟩
      · rw [lines_cons_break hc, hlines]
        rfl
      · intro l hl
        rcases List.mem_cons.1 hl with rfl | hl
        · exact ⟨c, rfl, hc⟩
        · exact hended l hl
    | false =>
      -- the first line gets the character; it is the last one if no line has ended
      rw [lines_cons hc]
      cases ended with
      | nil =>
        obtain ⟨hfirst, hothers⟩ := List.cons.inj hlines
        rw [hfirst, hothers]
        exact ⟨[], last.cons c, rfl, hlast, by simp⟩
      | cons l ended =>
        obtain ⟨hfirst, hothers⟩ := List.cons.inj hlines
        rw [hfirst, hothers]
        refine ⟨l.cons c :: ended, last, rfl, hlast, ?_⟩
        intro l' hl'
        rcases List.mem_cons.1 hl' with rfl | hl'
        · exact hended l List.mem_cons_self
        · exact hended l' (List.mem_cons_of_mem l hl')

/-! ## Texts that are put together -/

/-- Characters in front of a text, without a break among them, go to its first line. -/
theorem lines_append {front : Text} (h : LineBreakFree front) (t : Text) :
    lines (front ++ t) = (⟨front ++ (lines t).1.body, (lines t).1.ending⟩, (lines t).2) := by
  induction front with
  | nil => rfl
  | cons c r ih =>
    rw [List.cons_append, lines_cons (h c List.mem_cons_self),
      ih fun d hd => h d (List.mem_cons_of_mem c hd)]
    rfl

/-- Characters behind a text, without a break among them, begin no line. -/
theorem length_lines_append (t : Text) {back : Text} (h : LineBreakFree back) :
    (lines (t ++ back)).2.length = (lines t).2.length := by
  induction t with
  | nil => rw [List.nil_append, lines_of_lineBreakFree h]; rfl
  | cons c r ih =>
    cases hc : isLineBreak c with
    | true =>
      rw [List.cons_append, lines_cons_break hc, lines_cons_break hc]
      exact congrArg (· + 1) ih
    | false =>
      rw [List.cons_append, lines_cons hc, lines_cons hc]
      exact ih

/-- Behind a break, the lines of a text are as they are. -/
theorem lines_append_terminated (front : Text) {c : Char} (hc : isLineBreak c = true) :
    ∃ between, (lines (front ++ [c])).2 = between ++ [⟨[], []⟩] ∧
      ∀ t, lines (front ++ [c] ++ t) =
        ((lines (front ++ [c])).1, between ++ (lines t).1 :: (lines t).2) := by
  induction front with
  | nil =>
    refine ⟨[], ?_, ?_⟩
    · simp [lines, hc]
    · intro t
      simp [lines, hc]
  | cons d r ih =>
    obtain ⟨between, hlast, happend⟩ := ih
    cases hd : isLineBreak d with
    | true =>
      refine ⟨(lines (r ++ [c])).1 :: between, ?_, ?_⟩
      · rw [List.cons_append, lines_cons_break hd, hlast]
        rfl
      · intro t
        rw [List.cons_append, List.cons_append, lines_cons_break hd, lines_cons_break hd, happend t]
        rfl
    | false =>
      refine ⟨between, ?_, ?_⟩
      · rw [List.cons_append, lines_cons hd, hlast]
      · intro t
        rw [List.cons_append, List.cons_append, lines_cons hd, lines_cons hd, happend t]

/-! ## Where lines lie -/

def Line.span (start : Nat) (l : Line) : Span :=
  ⟨start, start + byteSize l.body, start + byteSize l.whole⟩

def layout (start : Nat) : List Line → List Span
  | [] => []
  | l :: r => l.span start :: layout (start + byteSize l.whole) r

theorem utf8Size_of_isLineBreak {c : Char} (h : isLineBreak c = true) : c.utf8Size = 1 := by
  rcases (by simpa [isLineBreak] using h : c = '\n' ∨ c = '\r') with rfl | rfl <;> rfl

theorem spansFrom_eq {front : Text} (h : LineBreakFree front) (start : Nat) (t : Text) :
    spansFrom start (start + byteSize front) t =
      layout start ((lines (front ++ t)).1 :: (lines (front ++ t)).2) := by
  -- by induction on the text: a character goes to the line that has begun, or ends it
  induction t generalizing front start with
  | nil =>
    rw [List.append_nil, lines_of_lineBreakFree h]
    simp [spansFrom, layout, Line.span, Line.whole]
  | cons c r ih =>
    rw [spansFrom]
    cases hc : isLineBreak c with
    | true =>
      have hsize := utf8Size_of_isLineBreak hc
      have hrest := ih lineBreakFree_nil (start + byteSize front + 1)
      simp only [byteSize_nil, Nat.add_zero, List.nil_append] at hrest
      rw [if_pos rfl, hsize, hrest, lines_append h, lines_cons_break hc]
      simp [layout, Line.span, Line.whole, hsize, Nat.add_assoc]
    | false =>
      have hmore : LineBreakFree (front ++ [c]) := by
        refine h.append ?_
        simpa [LineBreakFree] using hc
      have hrest := ih hmore start
      simpa [Nat.add_assoc] using hrest

/-- The spans of a text are where its lines lie. -/
theorem spans_eq (t : Text) : spans t = layout 0 ((lines t).1 :: (lines t).2) :=
  spansFrom_eq lineBreakFree_nil 0 t

/-- The first span reaches from the front into the text, and the others lie in the text. -/
theorem spans_append {front : Text} (h : LineBreakFree front) (t : Text) :
    spans (front ++ t) =
      ⟨0, byteSize (front ++ (lines t).1.body), byteSize (front ++ (lines t).1.whole)⟩ ::
        layout (byteSize (front ++ (lines t).1.whole)) (lines t).2 := by
  rw [spans_eq, lines_append h]
  simp [layout, Line.span, Line.whole]

end Text
end ContractAssist
