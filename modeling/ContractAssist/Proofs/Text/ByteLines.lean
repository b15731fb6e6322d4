import ContractAssist.Text.Utf8

/-!
# Text.ByteLines — the lines of an input

An input is read line by line, each with the line feed behind it; the last line may have none.

1. `LinesOf` says what the lines of some bytes are, and `existsUnique_linesOf` that all bytes have
   lines, and no others;
2. `LinesOf.firstLine_eq`: `firstLine` takes one line away and leaves the others.
-/

namespace ContractAssist
namespace Utf8

/-- The lines of some bytes, each with the line feed that ends it. -/
inductive LinesOf : Bytes → List Bytes → Prop where
  | none : LinesOf [] []
  -- the last line, without a line feed
  | unterminated {line} (hne : line ≠ []) (hline : 10 ∉ line) : LinesOf line [line]
  -- a line that is ended by a line feed; there may be others behind it
  | terminated {body rest lines} (hbody : 10 ∉ body) (h : LinesOf rest lines) :
      LinesOf (body ++ 10 :: rest) ((body ++ [10]) :: lines)

variable {body line bytes : Bytes} {lines others : List Bytes}

/-! ## The first line -/

/-- A line feed ends the line, and belongs to it. -/
theorem firstLine_terminated (h : 10 ∉ body) (rest : Bytes) :
    firstLine (body ++ 10 :: rest) = (body ++ [10], rest) := by
  induction body with
  | nil => rfl
  | cons b r ih =>
    have hb : b ≠ 10 := (List.ne_of_not_mem_cons h).symm
    rw [List.cons_append, firstLine, if_neg hb, ih (List.not_mem_of_not_mem_cons h)]
    rfl

/-- Without a line feed, all is one line. -/
theorem firstLine_unterminated (h : 10 ∉ line) : firstLine line = (line, []) := by
  induction line with
  | nil => rfl
  | cons b r ih =>
    have hb : b ≠ 10 := (List.ne_of_not_mem_cons h).symm
    rw [firstLine, if_neg hb, ih (List.not_mem_of_not_mem_cons h)]

/-! ## All lines -/

namespace LinesOf

theorem flatten_eq (h : LinesOf bytes lines) : lines.flatten = bytes := by
  induction h with
  | none => rfl
  | unterminated => exact List.append_nil _
  | terminated _ _ ih => rw [List.flatten_cons, ih, List.append_assoc, List.singleton_append]

/-- The first of the lines is what is read first. -/
theorem firstLine_eq (h : LinesOf bytes (line :: others)) :
    firstLine bytes = (line, others.flatten) := by
  cases h with
  | unterminated _ hbody => exact firstLine_unterminated hbody
  | terminated hbody h => rw [firstLine_terminated hbody, h.flatten_eq]

theorem ne_nil (h : LinesOf bytes (line :: others)) : line ≠ [] := by
  cases h with
  | unterminated hne _ => exact hne
  | terminated => simp

theorem tail (h : LinesOf bytes (line :: others)) : LinesOf others.flatten others := by
  cases h with
  | unterminated => exact .none
  | terminated _ h => rwa [h.flatten_eq]

theorem eq_nil_iff (h : LinesOf bytes lines) : lines = [] ↔ bytes = [] := by
  cases h with
  | none => exact iff_of_true rfl rfl
  | unterminated hne _ => simp [hne]
  | terminated => simp

/-- There is only one way to divide bytes into lines. -/
theorem unique (h : LinesOf bytes lines) (h' : LinesOf bytes others) : lines = others := by
  -- the first lines are the same, since both are what is read first
  induction lines generalizing bytes others with
  | nil => rw [h'.eq_nil_iff.2 (h.eq_nil_iff.1 rfl)]
  | cons line lines ih =>
    cases others with
    | nil => exact absurd (h.eq_nil_iff.2 (h'.eq_nil_iff.1 rfl)) (List.cons_ne_nil line lines)
    | cons line' others =>
      obtain ⟨hline, hrest⟩ := Prod.mk.inj (h.firstLine_eq.symm.trans h'.firstLine_eq)
      have htail : LinesOf lines.flatten others := by rw [hrest]; exact h'.tail
      rw [hline, ih h.tail htail]

end LinesOf

theorem exists_linesOf (bytes : Bytes) : ∃ lines, LinesOf bytes lines := by
  -- a line feed ends a line and leaves fewer bytes behind it
  induction hlength : bytes.length using Nat.strongRecOn generalizing bytes with
  | ind n ih =>
    by_cases hfeed : 10 ∈ bytes
    · obtain ⟨body, rest, rfl, hbody⟩ := List.eq_append_cons_of_mem hfeed
      have hshorter : rest.length < n := by
        rw [← hlength, List.length_append, List.length_cons]
        omega
      obtain ⟨others, h⟩ := ih rest.length hshorter rest rfl
      exact ⟨(body ++ [10]) :: others, .terminated hbody h⟩
    · by_cases hne : bytes = []
      · exact ⟨[], hne ▸ .none⟩
      · exact ⟨[bytes], .unterminated hne hfeed⟩

theorem existsUnique_linesOf (bytes : Bytes) :
    ∃ lines, ∀ others, LinesOf bytes others ↔ others = lines := by
  obtain ⟨lines, h⟩ := exists_linesOf bytes
  refine ⟨lines, fun others => ⟨fun h' => h'.unique h, ?_⟩⟩
  rintro rfl
  exact h

end Utf8
end ContractAssist
