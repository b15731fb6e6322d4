import ContractAssist.Proofs.Prompt.Invariant
import ContractAssist.Proofs.Text.Lines
import ContractAssist.Proofs.Text.Slice

/-!
# Prompt.Offset — offsets and lines say the same

A chunk is observed by the offsets of its lines in the text that the tail and the chunk make up.
This module shows that no cut fails, and that what comes out is what reading the lines gives:

1. `readSpans_layout` for the lines that begin in the chunk: each is cut out of the text, and what
   is hidden is just what the lines that ask take up;
2. `fromByte?_last` for the line that is left unterminated, `clipTail?_eq` for its last bytes;
3. `observeByOffset_eq` puts these together, the line that goes on from the tail in front.
-/

namespace ContractAssist
namespace Session

open Text

/-! ## The tail is not read -/

theorem register_tail (s : Session) (kind : PromptKind) (line : Text) (now : Instant)
    (tail : Text) :
    ({ s with tail := tail } : Session).register kind line now =
      ({ (s.register kind line now).1 with tail := tail }, (s.register kind line now).2) := by
  unfold register
  by_cases hflag : s.handled.get kind.category = true
  · simp [hflag]
  · cases hstate : s.state with
    | awaiting current readyAt =>
      by_cases hsame : current.category = kind.category
      · simp [hflag, hsame]
      · simp [hflag, hsame]
    | idle => simp [hflag]
    | resolving k => simp [hflag]
    | done => simp [hflag, hstate]

theorem noticed_tail (s : Session) (news : Bool) (line tail : Text) :
    ({ s with tail := tail } : Session).noticed news line =
      { s.noticed news line with tail := tail } := by
  unfold noticed
  split
  · rfl
  · rfl

theorem readLine_tail (s : Session) (now : Instant) (news : Bool) (line tail : Text) :
    ({ s with tail := tail } : Session).readLine now news line =
      ({ (s.readLine now news line).1 with tail := tail }, (s.readLine now news line).2) := by
  rw [readLine_eq, readLine_eq, noticed_tail]
  cases (classify line).question? with
  | none => rfl
  | some kind => exact register_tail _ kind line now tail

theorem observeLines_tail (s : Session) (now : Instant) (lines : List Line) (tail : Text) :
    ({ s with tail := tail } : Session).observeLines now lines =
      ({ (s.observeLines now lines).1 with tail := tail }, (s.observeLines now lines).2) := by
  induction lines generalizing s with
  | nil => rfl
  | cons l r ih => simp only [observeLines, observeLine, readLine_tail, ih]

/-! ## Lines that begin in the chunk -/

/-- A line is cut out of the text and read, and then the lines behind it are. -/
theorem readSpans_cons {s : Session} {now : Instant} {text segment : Text}
    {chunkStart index : Nat} {signal : Bool} {line : Span} {read : Session × Bool} (r : List Span)
    (hslice : slice? line.start line.stop text = some segment)
    (hread : s.readLine now (!(index == 0 && signal)) segment = read) :
    s.readSpans now text chunkStart signal index (line :: r) =
      (read.1.readSpans now text chunkStart signal (index + 1) r).map fun (s', prompt, hidden) =>
        (s', read.2 || prompt, hide read.2 (max line.start chunkStart) line.next hidden) := by
  rw [readSpans, hslice, Option.bind_some, hread]

/-- A line that asks is passed over, and a line that does not is kept. -/
theorem passthrough?_hide {text front : Text} {l : Line} {rest later : Text} {hidden : List Hidden}
    (htext : text = front ++ (l.whole ++ rest)) (asked : Bool)
    (hlater : ∀ before kept, front ++ l.whole = before ++ kept →
      passthrough? text (byteSize before) hidden = some (kept ++ later))
    {before kept : Text} (hfront : front = before ++ kept) :
    passthrough? text (byteSize before)
        (hide asked (byteSize front) (byteSize (front ++ l.whole)) hidden) =
      some (kept ++ ((if asked then [] else l.whole) ++ later)) := by
  cases asked with
  | false =>
    have hkept := hlater before (kept ++ l.whole) (by rw [hfront, List.append_assoc])
    simpa [hide] using hkept
  | true =>
    by_cases hwhole : l.whole = []
    · have hnothing := hlater before kept (by rw [hwhole, hfront, List.append_nil])
      simpa [hide, hwhole] using hnothing
    · -- what was kept in front of the line is cut out, and the cursor goes behind the line
      have hpos := byteSize_pos hwhole
      have hsize := byteSize_append before kept
      have hpassed : passthrough? text (byteSize (front ++ l.whole)) hidden = some later :=
        hlater (front ++ l.whole) [] (List.append_nil _).symm
      have hcursor : max (byteSize before) (byteSize (front ++ l.whole)) =
          byteSize (front ++ l.whole) := by
        rw [byteSize_append front, hfront]
        omega
      have hslice : slice? (byteSize before) (byteSize front) text = some kept := by
        rw [htext, hfront, List.append_assoc, hsize]
        exact slice?_append before kept _
      have hrange : byteSize front < byteSize (front ++ l.whole) := by
        rw [byteSize_append]
        omega
      rw [hide, if_pos (by simpa using hrange), passthrough?, hcursor, hslice, hpassed]
      split
      · rfl
      · next hnone =>
        cases kept with
        | nil => rfl
        | cons c r =>
          have hkept := byteSize_pos (List.cons_ne_nil c r)
          rw [hfront] at hnone
          omega

/-- The lines that begin in the chunk are read, and what asks is not passed on. -/
theorem readSpans_layout (s : Session) (now : Instant) {text front : Text} {lines : List Line}
    (htext : text = front ++ wholeText lines) {chunkStart : Nat}
    (hstart : chunkStart ≤ byteSize front) (signal : Bool) (index : Nat) :
    ∃ hidden,
      s.readSpans now text chunkStart signal (index + 1) (layout (byteSize front) lines) =
        some ((s.observeLines now lines).1, (s.observeLines now lines).2.prompt, hidden) ∧
      ∀ before kept, front = before ++ kept →
        passthrough? text (byteSize before) hidden =
          some (kept ++ (s.observeLines now lines).2.passthrough) := by
  -- by induction on the lines: those that were read already are in front
  induction lines generalizing s front index with
  | nil =>
    refine ⟨[], rfl, ?_⟩
    rintro before kept rfl
    rw [htext, List.append_assoc]
    exact fromByte?_append before _
  | cons l r ih =>
    rw [wholeText_cons] at htext
    have hsize := byteSize_append front l.whole
    have hbody : slice? (byteSize front) (byteSize front + byteSize l.body) text = some l.body := by
      rw [htext, Line.whole, List.append_assoc]
      exact slice?_append front l.body _
    have htext' : text = front ++ l.whole ++ wholeText r := by rw [htext, List.append_assoc]
    obtain ⟨hidden, hread, hshown⟩ :=
      ih (s.readLine now true l.body).1 htext' (by omega) (index + 1)
    refine ⟨hide (s.readLine now true l.body).2 (byteSize front) (byteSize (front ++ l.whole))
      hidden, ?_, fun before kept hfront => passthrough?_hide htext _ hshown hfront⟩
    have hnews : s.readLine now (!(index + 1 == 0 && signal)) l.body =
        s.readLine now true l.body := by
      simp
    rw [layout, readSpans_cons _ hbody hnews, ← hsize, hread, Option.map_some]
    simp only [Line.span, Nat.max_eq_left hstart, hsize]
    rfl

/-! ## The line that is left unterminated -/

theorem layout_append (start : Nat) (front later : List Line) :
    layout start (front ++ later) =
      layout start front ++ layout (start + byteSize (wholeText front)) later := by
  induction front generalizing start with
  | nil => rfl
  | cons l r ih =>
    rw [List.cons_append, layout, layout, ih, wholeText_cons, byteSize_append, Nat.add_assoc,
      List.cons_append]

theorem clipTail?_eq (line : Text) : clipTail? line = some (clip line) := by
  unfold clipTail?
  split
  · next hshort => rw [clip_of_le hshort]
  · next hlong =>
    have hturns : byteSize line < byteSize line - tailLimit + (tailLimit + 1) := by omega
    obtain ⟨start, hfound, hfrom⟩ := exists_boundaryFrom (Nat.sub_le _ tailLimit) hturns
    rw [hfound, Option.bind_some, hfrom]
    rfl

/-- The last of the lines is what is left unterminated. -/
theorem fromByte?_last {s : Session} (h : LineBreakFree s.tail) (chunk : Text) :
    fromByte? (((spans (s.tail ++ chunk)).getLast?.map Span.start).getD 0) (s.tail ++ chunk) =
      some (s.openLine chunk) := by
  obtain ⟨ended, last, hlines, hending, -⟩ := lines_endings (s.tail ++ chunk)
  have htext : wholeText ended ++ last.body = s.tail ++ chunk := by
    calc
      wholeText ended ++ last.body = wholeText (ended ++ [last]) := by
        simp [wholeText, Line.whole, hending]
      _ = s.tail ++ chunk := by rw [← hlines, wholeText_lines]
  have hopen : s.openLine chunk = last.body := by
    have hlast : (ended ++ [last]).getLast? = some last := List.getLast?_concat
    rw [← hlines, lines_append h, List.getLast?_cons] at hlast
    unfold openLine
    cases hothers : (lines chunk).2.getLast? with
    | none =>
      rw [hothers] at hlast
      rw [← Option.some.inj hlast]
      rfl
    | some l =>
      rw [hothers] at hlast
      rw [← Option.some.inj hlast]
      rfl
  have hstart : ((spans (s.tail ++ chunk)).getLast?.map Span.start).getD 0 =
      byteSize (wholeText ended) := by
    rw [spans_eq, hlines, layout_append, layout, layout, List.getLast?_concat, Nat.zero_add]
    rfl
  rw [hopen, hstart, ← htext]
  exact fromByte?_append _ _

/-! ## A chunk -/

theorem observe_eq {s : Session} (h : s.isDone = false) (chunk : Text) (now : Instant) :
    let first := s.observeLine now (!s.carriesSignal) s.tail (lines chunk).1
    let others := first.1.observeLines now (lines chunk).2
    s.observe chunk now =
      ({ others.1 with tail := clip (s.openLine chunk) }, first.2.append others.2) := by
  simp only [observe, h, Bool.false_eq_true, if_false]
  rfl

/-- The first span cuts out the text that the chunk goes on from, and the chunk's first line. -/
theorem slice?_first (front chunk : Text) :
    slice? 0 (byteSize (front ++ (lines chunk).1.body)) (front ++ chunk) =
      some (front ++ (lines chunk).1.body) := by
  have hslice := slice?_append [] (front ++ (lines chunk).1.body)
    ((lines chunk).1.ending ++ wholeText (lines chunk).2)
  have htext : front ++ chunk = front ++ (lines chunk).1.body ++
      ((lines chunk).1.ending ++ wholeText (lines chunk).2) := by
    conv => lhs; rw [← wholeText_lines chunk, wholeText_cons, Line.whole]
    simp only [List.append_assoc]
  rw [htext]
  simpa using hslice

/-- The first line goes on from the tail; only what the chunk adds to it may be hidden. -/
theorem readSpans_eq {s : Session} (h : LineBreakFree s.tail) (chunk : Text) (now : Instant) :
    let first := s.observeLine now (!s.carriesSignal) s.tail (lines chunk).1
    let others := first.1.observeLines now (lines chunk).2
    ∃ hidden,
      ({ s with tail := [] } : Session).readSpans now (s.tail ++ chunk) (byteSize s.tail)
          s.carriesSignal 0 (spans (s.tail ++ chunk)) =
        some ({ others.1 with tail := [] }, (first.2.append others.2).prompt, hidden) ∧
      passthrough? (s.tail ++ chunk) (byteSize s.tail) hidden =
        some (first.2.append others.2).passthrough := by
  intro first others
  have htext : s.tail ++ chunk =
      s.tail ++ ((lines chunk).1.whole ++ wholeText (lines chunk).2) := by
    rw [← wholeText_cons, wholeText_lines]
  have htext' : s.tail ++ chunk =
      s.tail ++ (lines chunk).1.whole ++ wholeText (lines chunk).2 := by
    rw [htext, List.append_assoc]
  have hstart : byteSize s.tail ≤ byteSize (s.tail ++ (lines chunk).1.whole) := by
    rw [byteSize_append]
    exact Nat.le_add_right _ _
  -- the session has no tail while it reads, but that makes no difference to any line
  obtain ⟨hidden, hrest, hshown⟩ :=
    readSpans_layout { first.1 with tail := [] } now htext' hstart s.carriesSignal 0
  rw [observeLines_tail] at hrest hshown
  have hread : ({ s with tail := [] } : Session).readLine now
      (!((0 : Nat) == 0 && s.carriesSignal)) (s.tail ++ (lines chunk).1.body) =
        ({ first.1 with tail := [] }, first.2.prompt) :=
    readLine_tail s now (!s.carriesSignal) _ []
  -- the first span starts in front of the chunk, so what is hidden of it starts with the chunk
  refine ⟨hide first.2.prompt (byteSize s.tail) (byteSize (s.tail ++ (lines chunk).1.whole)) hidden,
    ?_, passthrough?_hide htext first.2.prompt hshown (List.append_nil s.tail).symm⟩
  rw [spans_append h, readSpans_cons _ (slice?_first s.tail chunk) hread, hrest, Option.map_some]
  simp only [Nat.zero_max]
  rfl

/-- What is cut out of the tail and the chunk are the lines that are read. -/
theorem observeByOffset_eq {s : Session} (h : LineBreakFree s.tail) (chunk : Text) (now : Instant) :
    s.observeByOffset chunk now = some (s.observe chunk now) := by
  unfold observeByOffset
  split
  · next hdone => rw [observe_done hdone]
  · next hdone =>
    obtain ⟨hidden, hread, hshown⟩ := readSpans_eq h chunk now
    rw [observe_eq (by simpa using hdone)]
    simp only [hread, fromByte?_last h, clipTail?_eq, hshown, Option.bind_some, Option.map_some]

end Session
end ContractAssist
