import ContractAssist.Text.Basic

/-!
# Text.Basic — cuts, lines and blanks

Facts about the plain operations on text that the theory of sessions and of runs rests on:

* cuts by bytes: `Text.dropBytes` and `Text.dropBytesBefore` give ends of the text whose sizes are
  bounded from above and from below (`byteSize_dropBytes_le`, `le_byteSize_dropBytesBefore`);
* lines: no line that `Text.lines` gives holds a line break (`lineBreakFree_lines`);
* blanks: `Text.trim` takes blanks and nothing else away (`exists_trim`), and nothing more the
  second time (`trim_trim`).
-/

namespace ContractAssist
namespace Text

/-! ## Sizes and cuts -/

@[simp] theorem byteSize_nil : byteSize [] = 0 := rfl

@[simp] theorem byteSize_cons (c : Char) (t : Text) :
    byteSize (c :: t) = c.utf8Size + byteSize t := rfl

@[simp] theorem byteSize_append (t u : Text) : byteSize (t ++ u) = byteSize t + byteSize u := by
  induction t with
  | nil => simp
  | cons c r ih => simp [ih]; omega

theorem byteSize_eq_length {t : Text} (h : ∀ c ∈ t, c.utf8Size = 1) : byteSize t = t.length := by
  induction t with
  | nil => rfl
  | cons c r ih =>
    obtain ⟨hc, hr⟩ := List.forall_mem_cons.1 h
    rw [byteSize_cons, hc, ih hr, List.length_cons, Nat.add_comm]

/-- What is left after a cut is an end of the text. -/
theorem dropBytes_suffix (n : Nat) (t : Text) : dropBytes n t <:+ t := by
  induction t generalizing n with
  | nil => exact List.suffix_refl []
  | cons c r ih =>
    by_cases hn : n = 0
    · simp [dropBytes, hn]
    · have h : dropBytes n (c :: r) = dropBytes (n - c.utf8Size) r := by
        simp [dropBytes, hn]
      rw [h]
      exact (ih (n - c.utf8Size)).trans (List.suffix_cons c r)

theorem byteSize_dropBytes_le (n : Nat) (t : Text) : byteSize (dropBytes n t) ≤ byteSize t - n := by
  induction t generalizing n with
  | nil => simp [dropBytes]
  | cons c r ih =>
    by_cases hn : n = 0
    · simp [dropBytes, hn]
    · have h : dropBytes n (c :: r) = dropBytes (n - c.utf8Size) r := by
        simp [dropBytes, hn]
      have hr := ih (n - c.utf8Size)
      rw [h, byteSize_cons]
      omega

/-- What a cut takes away in front is a beginning of at most so many bytes. -/
theorem exists_dropBytesBefore (n : Nat) (t : Text) :
    ∃ front, front ++ dropBytesBefore n t = t ∧ byteSize front ≤ n := by
  induction t generalizing n with
  | nil => exact ⟨[], rfl, Nat.zero_le n⟩
  | cons c r ih =>
    by_cases hn : n < c.utf8Size
    · exact ⟨[], by simp [dropBytesBefore, hn], Nat.zero_le n⟩
    · obtain ⟨front, happ, hsize⟩ := ih (n - c.utf8Size)
      refine ⟨c :: front, ?_, ?_⟩
      · simp [dropBytesBefore, hn, happ]
      · rw [byteSize_cons]
        omega

theorem le_byteSize_dropBytesBefore (n : Nat) (t : Text) :
    byteSize t - n ≤ byteSize (dropBytesBefore n t) := by
  obtain ⟨front, happ, hsize⟩ := exists_dropBytesBefore n t
  have h : byteSize front + byteSize (dropBytesBefore n t) = byteSize t := by
    rw [← byteSize_append, happ]
  omega

/-- A cut behind a beginning of the text is a cut of what comes after it. -/
theorem dropBytesBefore_append {n : Nat} {front : Text} (t : Text) (h : byteSize front ≤ n) :
    dropBytesBefore n (front ++ t) = dropBytesBefore (n - byteSize front) t := by
  induction front generalizing n with
  | nil => rfl
  | cons c r ih =>
    rw [byteSize_cons] at h
    have hc : ¬ n < c.utf8Size := by omega
    have hr : byteSize r ≤ n - c.utf8Size := by omega
    rw [List.cons_append, byteSize_cons, ← Nat.sub_sub, ← ih hr]
    simp [dropBytesBefore, hc]

/-! ## Lines -/

def LineBreakFree (t : Text) : Prop :=
  ∀ c ∈ t, isLineBreak c = false

instance (t : Text) : Decidable (LineBreakFree t) :=
  List.decidableBAll (fun c => isLineBreak c = false) t

theorem lineBreakFree_nil : LineBreakFree [] := nofun

theorem LineBreakFree.append {t u : Text} (ht : LineBreakFree t) (hu : LineBreakFree u) :
    LineBreakFree (t ++ u) := by
  intro c hc
  rcases List.mem_append.1 hc with hc | hc
  · exact ht c hc
  · exact hu c hc

theorem LineBreakFree.of_part {t u : Text} (ht : LineBreakFree t) (h : u <:+: t) :
    LineBreakFree u :=
  fun c hc => ht c (h.subset hc)

/-- Each character of a text is either part of a line or the break that ends one. -/
theorem lineBreakFree_lines (t : Text) :
    LineBreakFree (lines t).1.body ∧ ∀ l ∈ (lines t).2, LineBreakFree l.body := by
  induction t with
  | nil => simp [lines, LineBreakFree]
  | cons c r ih =>
    obtain ⟨hfirst, hothers⟩ := ih
    by_cases hc : isLineBreak c = true
    · refine ⟨by simp [lines, hc, LineBreakFree], ?_⟩
      intro l hl
      have hl : l = (lines r).1 ∨ l ∈ (lines r).2 := by
        simpa [lines, hc] using hl
      rcases hl with rfl | hl
      · exact hfirst
      · exact hothers l hl
    · have hbody : (lines (c :: r)).1.body = c :: (lines r).1.body := by
        simp [lines, hc, Line.cons]
      refine ⟨?_, by simpa [lines, hc] using hothers⟩
      rw [hbody]
      intro d hd
      rcases List.mem_cons.1 hd with rfl | hd
      · simpa using hc
      · exact hfirst d hd

/-- A text without breaks is one line, and so it is with a break behind it. -/
theorem lines_of_lineBreakFree {t : Text} (h : LineBreakFree t) : lines t = (⟨t, []⟩, []) := by
  induction t with
  | nil => rfl
  | cons c r ih =>
    have hc : isLineBreak c = false := h c List.mem_cons_self
    have hr : lines r = (⟨r, []⟩, []) := ih fun d hd => h d (List.mem_cons_of_mem c hd)
    simp [lines, hc, hr, Line.cons]

theorem lines_append_break {t : Text} {c : Char} (h : LineBreakFree t) (hc : isLineBreak c = true) :
    lines (t ++ [c]) = (⟨t, [c]⟩, [⟨[], []⟩]) := by
  induction t with
  | nil => simp [lines, hc]
  | cons d r ih =>
    have hd : isLineBreak d = false := h d List.mem_cons_self
    have hr : lines (r ++ [c]) = (⟨r, [c]⟩, [⟨[], []⟩]) :=
      ih fun e he => h e (List.mem_cons_of_mem d he)
    simp [lines, hd, hr, Line.cons]

/-! ## Blanks -/

theorem allBlank_iff {t : Text} : allBlank t = true ↔ ∀ c ∈ t, isBlank c = true := by
  simp [allBlank]

structure Trimmed (t : Text) : Prop where
  -- the first character is no blank
  head : ∀ c, t.head? = some c → isBlank c = false
  last : ∀ c, t.getLast? = some c → isBlank c = false

theorem dropWhile_eq_self_of_head {t : Text} (h : ∀ c, t.head? = some c → isBlank c = false) :
    t.dropWhile isBlank = t := by
  cases t with
  | nil => rfl
  | cons c r => simp [h c rfl]

theorem Trimmed.trim_eq {t : Text} (h : Trimmed t) : trim t = t := by
  have hfront : trimStart t = t := dropWhile_eq_self_of_head h.head
  have hback : t.reverse.dropWhile isBlank = t.reverse := by
    apply dropWhile_eq_self_of_head
    intro c hc
    exact h.last c (by simpa using hc)
  simp [trim, trimEnd, hfront, hback]

/-- Blanks around a text are removed, and nothing else. -/
theorem trim_padded {front t back : Text} (hfront : allBlank front = true)
    (hback : allBlank back = true) (h : Trimmed t) : trim (front ++ t ++ back) = t := by
  have hstart : trimStart (front ++ t ++ back) = (t ++ back).dropWhile isBlank := by
    simp only [trimStart, List.append_assoc]
    exact List.dropWhile_append_of_pos (List.all_eq_true.1 hfront)
  cases t with
  | nil =>
    -- all of it is blank, so that it is gone before its end is looked at
    have hnothing : back.dropWhile isBlank = [] := by
      have hdrop : (back ++ []).dropWhile isBlank = [].dropWhile isBlank :=
        List.dropWhile_append_of_pos (List.all_eq_true.1 hback)
      simpa using hdrop
    have hempty : trimStart (front ++ [] ++ back) = [] := hstart.trans hnothing
    simp only [trim, hempty]
    rfl
  | cons c r =>
    have hkept : (c :: r ++ back).dropWhile isBlank = c :: r ++ back :=
      dropWhile_eq_self_of_head h.head
    have hback' : ∀ d ∈ back.reverse, isBlank d = true := by
      intro d hd
      exact List.all_eq_true.1 hback d (List.mem_reverse.1 hd)
    have hend : (c :: r).reverse.dropWhile isBlank = (c :: r).reverse := by
      apply dropWhile_eq_self_of_head
      intro d hd
      exact h.last d (List.head?_reverse.symm.trans hd)
    calc
      trim (front ++ c :: r ++ back)
          = trimEnd (c :: r ++ back) := by simp only [trim, hstart, hkept]
      _ = (((c :: r) ++ back).reverse.dropWhile isBlank).reverse := rfl
      _ = ((c :: r).reverse.dropWhile isBlank).reverse := by
            rw [List.reverse_append, List.dropWhile_append_of_pos hback']
      _ = c :: r := by rw [hend, List.reverse_reverse]

theorem head?_dropWhile_isBlank {t : Text} {c : Char} (h : (t.dropWhile isBlank).head? = some c) :
    isBlank c = false := by
  have hnot := List.head?_dropWhile_not isBlank t
  rw [h] at hnot
  simpa using hnot

theorem trimEnd_prefix (t : Text) : trimEnd t <+: t := by
  have h : (t.reverse.dropWhile isBlank) <:+ t.reverse := List.dropWhile_suffix isBlank
  simpa [trimEnd] using List.reverse_prefix.2 h

theorem trimmed_trim (t : Text) : Trimmed (trim t) where
  head := by
    intro c hc
    -- the beginning of the text is the same with and without the blanks at its end
    have hfront : (trimStart t).head? = some c := by
      obtain ⟨back, happ⟩ := trimEnd_prefix (trimStart t)
      rw [← happ]
      simp only [trim] at hc
      simp [List.head?_append, hc]
    exact head?_dropWhile_isBlank hfront
  last := by
    intro c hc
    refine head?_dropWhile_isBlank (t := (trimStart t).reverse) ?_
    simpa [trim, trimEnd] using hc

theorem trim_trim (t : Text) : trim (trim t) = trim t :=
  (trimmed_trim t).trim_eq

theorem exists_dropWhile_isBlank (t : Text) :
    ∃ front, allBlank front = true ∧ front ++ t.dropWhile isBlank = t := by
  refine ⟨t.takeWhile isBlank, ?_, List.takeWhile_append_dropWhile⟩
  rw [allBlank_iff]
  intro c hc
  exact List.all_eq_true.1 List.all_takeWhile c hc

/-- What is removed at the ends is blank. -/
theorem exists_trim (t : Text) :
    ∃ front back, allBlank front = true ∧ allBlank back = true ∧ front ++ trim t ++ back = t := by
  obtain ⟨front, hfront, happ⟩ := exists_dropWhile_isBlank t
  obtain ⟨back, hback, happ'⟩ := exists_dropWhile_isBlank (trimStart t).reverse
  refine ⟨front, back.reverse, hfront, ?_, ?_⟩
  · rw [allBlank_iff] at hback ⊢
    intro c hc
    exact hback c (List.mem_reverse.1 hc)
  · have hend : trim t ++ back.reverse = trimStart t := by
      have h := congrArg List.reverse happ'
      simpa [trim, trimEnd] using h
    rw [List.append_assoc, hend]
    exact happ

end Text
end ContractAssist
