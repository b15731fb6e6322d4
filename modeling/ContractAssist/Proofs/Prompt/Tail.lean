import ContractAssist.Proofs.Prompt.Fragment
import ContractAssist.Proofs.Prompt.LineEnd

/-!
# Tail — the unterminated line of all output so far

A session keeps only the end of its unterminated line, and cuts it again with each chunk.  However
often it is cut, nothing is lost that one cut of the whole line would keep:

1. `longestEnd_clip`: a cut keeps the longest end of the line that fits;
2. `clip_clip_append`: a line that was cut and then went on is cut like the line that was not;
3. `Follows.observe`: a chunk leaves the line unterminated that all output so far ends in;
4. `tail_after`: so the tail is a matter of the output as a whole.
-/

namespace ContractAssist

namespace Text

/-! ## The longest end that fits -/

/-- Of the ends of `line` that have at most `limit` bytes, `u` is the longest. -/
structure LongestEnd (limit : Nat) (line u : Text) : Prop where
  -- it is an end of the line
  suffix : u <:+ line
  bounded : byteSize u ≤ limit
  -- every end that fits is part of it
  longest : ∀ v, v <:+ line → byteSize v ≤ limit → v <:+ u

theorem LongestEnd.unique {limit : Nat} {line u v : Text} (hu : LongestEnd limit line u)
    (hv : LongestEnd limit line v) : u = v :=
  List.IsSuffix.eq_of_length_le (hv.longest u hu.suffix hu.bounded)
    (hu.longest v hv.suffix hv.bounded).length_le

/-- A cut leaves every end that is small enough. -/
theorem suffix_dropBytes {n : Nat} {t u : Text} (hsuffix : u <:+ t)
    (hsize : byteSize u ≤ byteSize t - n) : u <:+ dropBytes n t := by
  induction t generalizing n with
  | nil => exact hsuffix
  | cons c r ih =>
    by_cases hn : n = 0
    · rwa [dropBytes, if_pos hn]
    · rw [dropBytes, if_neg hn]
      have hpos := c.utf8Size_pos
      rw [byteSize_cons] at hsize
      rcases List.suffix_cons_iff.1 hsuffix with rfl | hrest
      · rw [byteSize_cons] at hsize
        omega
      · have hfits : byteSize u ≤ byteSize r := by
          obtain ⟨front, rfl⟩ := hrest
          rw [byteSize_append]
          exact Nat.le_add_left _ _
        exact ih hrest (by omega)

/-! ## The unterminated line -/

/-- What follows the last line break of a text. -/
def openEnd (t : Text) : Text :=
  (t.reverse.takeWhile fun c => !isLineBreak c).reverse

/-- A text has no break, or an unterminated line behind its last break. -/
theorem openEnd_cases (t : Text) :
    LineBreakFree t ∨
      ∃ front c, isLineBreak c = true ∧ LineBreakFree (openEnd t) ∧
        t = front ++ [c] ++ openEnd t := by
  have hfree : LineBreakFree (openEnd t) := by
    intro c hc
    have hkept := List.all_eq_true.1 List.all_takeWhile c (List.mem_reverse.1 hc)
    simpa using hkept
  have hsplit : (t.reverse.dropWhile fun c => !isLineBreak c).reverse ++ openEnd t = t := by
    rw [openEnd, ← List.reverse_append, List.takeWhile_append_dropWhile, List.reverse_reverse]
  cases hbefore : t.reverse.dropWhile fun c => !isLineBreak c with
  | nil =>
    rw [hbefore] at hsplit
    exact .inl (hsplit ▸ hfree)
  | cons c front =>
    have hc := List.head?_dropWhile_not (fun c => !isLineBreak c) t.reverse
    rw [hbefore] at hc hsplit
    refine .inr ⟨front.reverse, c, by simpa using hc, hfree, ?_⟩
    rw [← List.reverse_cons]
    exact hsplit.symm

theorem openEnd_append {u : Text} (t : Text) (h : LineBreakFree u) :
    openEnd (t ++ u) = openEnd t ++ u := by
  have hall : ∀ c ∈ u.reverse, (!isLineBreak c) = true := by
    intro c hc
    rw [h c (List.mem_reverse.1 hc)]
    rfl
  rw [openEnd, List.reverse_append, List.takeWhile_append_of_pos hall, List.reverse_append,
    List.reverse_reverse]
  rfl

theorem openEnd_terminated_append (t : Text) {c : Char} (hc : isLineBreak c = true) {u : Text}
    (h : LineBreakFree u) : openEnd (t ++ [c] ++ u) = u := by
  have hnothing : openEnd (t ++ [c]) = [] := by simp [openEnd, hc]
  rw [openEnd_append _ h, hnothing, List.nil_append]

end Text

namespace Session

open Text

/-! ## Cuts -/

/-- A cut keeps the longest end of the line that fits. -/
theorem longestEnd_clip (line : Text) : LongestEnd tailLimit line (clip line) where
  suffix := clip_suffix line
  bounded := byteSize_clip_le line
  longest := by
    intro v hsuffix hsize
    have hfits : byteSize v ≤ byteSize line := by
      obtain ⟨front, rfl⟩ := hsuffix
      rw [byteSize_append]
      exact Nat.le_add_left _ _
    exact suffix_dropBytes hsuffix (by omega)

/-- A line that was cut and then went on is cut like the line that was not. -/
theorem clip_clip_append (line rest : Text) : clip (clip line ++ rest) = clip (line ++ rest) := by
  have hcut := longestEnd_clip line
  have htwice := longestEnd_clip (clip line ++ rest)
  refine LongestEnd.unique ⟨?_, htwice.bounded, ?_⟩ (longestEnd_clip (line ++ rest))
  · exact htwice.suffix.trans (List.suffix_append_self_iff.2 hcut.suffix)
  · intro v ⟨front, hsplit⟩ hsize
    refine htwice.longest v ?_ hsize
    -- an end that fits lies in what follows, or reaches back into the line, but not beyond the cut
    rcases List.append_eq_append_iff.1 hsplit with ⟨back, hline, hv⟩ | ⟨between, -, hrest⟩
    · have hback : byteSize back ≤ tailLimit := by
        rw [hv, byteSize_append] at hsize
        omega
      have hkept : back <:+ clip line := hcut.longest back ⟨front, hline.symm⟩ hback
      rw [hv]
      exact List.suffix_append_self_iff.2 hkept
    · rw [hrest, ← List.append_assoc]
      exact List.suffix_append _ _

/-! ## Runs -/

/-- The session has kept the end of the line that the output `heard` leaves unterminated. -/
def Follows (s : Session) (heard : Text) : Prop :=
  s.isDone = false → s.tail = clip (openEnd heard)

variable {s : Session} {before : Text}

/-- A chunk leaves the line unterminated that all output so far ends in. -/
theorem Follows.observe (h : s.Follows before) (chunk : Text) (now : Instant) :
    (s.observe chunk now).1.Follows (before ++ chunk) := by
  intro hlater
  have hdone : s.isDone = false := (observe_isDone s chunk now).symm.trans hlater
  rcases openEnd_cases chunk with hfree | ⟨front, c, hc, hfree, hchunk⟩
  · calc
      (s.observe chunk now).1.tail = clip (s.tail ++ chunk) := by
        rw [observe_unbroken hdone hfree]
      _ = clip (openEnd before ++ chunk) := by rw [h hdone, clip_clip_append]
      _ = clip (openEnd (before ++ chunk)) := by rw [openEnd_append before hfree]
  · have hline : s.openLine chunk = openEnd chunk := by
      rw [hchunk, openLine_terminated_append s front hc, ← hchunk]
      simp [openLine, lines_of_lineBreakFree hfree]
    have hwhole : openEnd (before ++ chunk) = openEnd chunk := by
      rw [hchunk, ← List.append_assoc, ← List.append_assoc, openEnd_terminated_append _ hc hfree,
        ← hchunk]
    rw [observe_fst hdone, hline, hwhole]

theorem Follows.perform (h : s.Follows before) (op : Operation) :
    (s.perform op).Follows (before ++ op.text) := by
  cases op with
  | observe chunk now => exact h.observe chunk now
  | takeReady now =>
    intro hlater
    rw [Operation.text, List.append_nil]
    have hdone : s.isDone = false := (takeReady_isDone s now).symm.trans hlater
    exact (takeReady_tail s now).trans (h hdone)
  | finishResolution now =>
    intro hlater
    rw [Operation.text, List.append_nil]
    have hdone : s.isDone = false := (finishResolution_isDone s now).symm.trans hlater
    exact (finishResolution_tail s now).trans (h hdone)
  | markDone => exact fun hlater => by cases hlater

theorem Follows.after (h : s.Follows before) (operations : List Operation) :
    (s.after operations).Follows (before ++ heard operations) := by
  induction operations generalizing s before with
  | nil => rwa [heard, List.flatMap_nil, List.append_nil]
  | cons op r ih =>
    rw [heard_cons, ← List.append_assoc]
    exact ih (h.perform op)

theorem follows_after (debounce : Duration) (operations : List Operation) :
    ((new debounce).after operations).Follows (heard operations) := by
  have hnothing : (new debounce).Follows [] := fun _ => rfl
  exact hnothing.after operations

/--
While questions are handled, the tail is the longest end of at most 4096 bytes of what follows the
last line break of all output.  Another run that hears the same output has the same tail, however
the output is cut and whatever else is done meanwhile.
-/
theorem tail_after (debounce : Duration) (operations : List Operation)
    (hdone : ((new debounce).after operations).isDone = false) :
    LongestEnd 4096 (openEnd (heard operations)) ((new debounce).after operations).tail ∧
      ∀ debounce' operations', ((new debounce').after operations').isDone = false →
        heard operations' = heard operations →
        ((new debounce').after operations').tail = ((new debounce).after operations).tail := by
  have htail := follows_after debounce operations hdone
  constructor
  · rw [htail]
    exact longestEnd_clip (openEnd (heard operations))
  · intro debounce' operations' hdone' hheard
    rw [htail, ← hheard]
    exact follows_after debounce' operations' hdone'

/-- A line that comes in two pieces, with a question asked for in between, and in one. -/
theorem tail_after_pieces :
    let s := (new ⟨0⟩).after [.observe "one\rEnter passw" ⟨5⟩, .takeReady ⟨3⟩, .observe "ord ✔" ⟨4⟩]
    let s' := (new ⟨9⟩).after [.observe "one\rEnter password ✔" ⟨0⟩]
    s.isDone = false ∧ s'.isDone = false ∧
      LongestEnd 4096 ("Enter password ✔" : Text) s.tail ∧ s'.tail = s.tail := by
  intro s s'
  have hdone : s.isDone = false := by decide
  have hdone' : s'.isDone = false := by decide
  have hline : openEnd (heard [.observe "one\rEnter passw" ⟨5⟩, .takeReady ⟨3⟩,
      .observe "ord ✔" ⟨4⟩]) = ("Enter password ✔" : Text) := by decide
  obtain ⟨hlongest, hsame⟩ := tail_after _ _ hdone
  rw [hline] at hlongest
  exact ⟨hdone, hdone', hlongest, hsame _ _ hdone' (by decide)⟩

end Session
end ContractAssist
