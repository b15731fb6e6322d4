import ContractAssist.Proofs.Text.Basic
import ContractAssist.Text.Slice

/-!
# Text.Slice — where a text may be cut

* `splitAtByte?_eq_some_iff`: a text may be cut behind each of its beginnings, and nowhere else;
* `slice?_append`: a part of a text is what is between its two ends;
* `fromByte?_isSome_iff` and `slice?_isSome_iff`: offsets that are in order, within the text and
  between two characters are all that a cut needs;
* `exists_boundaryFrom`: the next place for a cut is found, and is where `dropBytes` cuts;
* `exists_floorBoundary`: the last place for a cut is where `dropBytesBefore` cuts.
-/

namespace ContractAssist
namespace Text

/-! ## Cuts -/

theorem byteSize_pos {t : Text} (h : t ≠ []) : 0 < byteSize t := by
  obtain ⟨c, r, rfl⟩ := List.exists_cons_of_ne_nil h
  have hpos := c.utf8Size_pos
  rw [byteSize_cons]
  omega

theorem splitAtByte?_zero (t : Text) : splitAtByte? 0 t = some ([], t) := by
  cases t <;> rfl

theorem splitAtByte?_cons {n : Nat} {c : Char} (h : c.utf8Size ≤ n) (r : Text) :
    splitAtByte? n (c :: r) =
      (splitAtByte? (n - c.utf8Size) r).map fun (front, rest) => (c :: front, rest) := by
  cases n with
  | zero => exact absurd c.utf8Size_pos (by omega)
  | succ n => simp [splitAtByte?, h]

theorem splitAtByte?_inside {n : Nat} {c : Char} (hpos : 0 < n) (h : n < c.utf8Size) (r : Text) :
    splitAtByte? n (c :: r) = none := by
  obtain ⟨n, rfl⟩ := Nat.exists_eq_add_one.2 hpos
  have hinside : ¬ c.utf8Size ≤ n + 1 := by omega
  simp [splitAtByte?, hinside]

theorem splitAtByte?_append (a b : Text) : splitAtByte? (byteSize a) (a ++ b) = some (a, b) := by
  induction a with
  | nil => exact splitAtByte?_zero b
  | cons c r ih =>
    have hsize : c.utf8Size + byteSize r - c.utf8Size = byteSize r := by omega
    rw [byteSize_cons, List.cons_append, splitAtByte?_cons (Nat.le_add_right _ _), hsize, ih]
    rfl

/-- A text may be cut behind each of its beginnings, and nowhere else. -/
theorem splitAtByte?_eq_some_iff {n : Nat} {t a b : Text} :
    splitAtByte? n t = some (a, b) ↔ t = a ++ b ∧ n = byteSize a := by
  constructor
  · intro h
    induction t generalizing n a with
    | nil =>
      cases n with
      | zero =>
        obtain ⟨rfl, rfl⟩ := Prod.mk.inj (Option.some.inj h)
        exact ⟨rfl, rfl⟩
      | succ n => simp [splitAtByte?] at h
    | cons c r ih =>
      rcases Nat.eq_zero_or_pos n with rfl | hpos
      · rw [splitAtByte?_zero] at h
        obtain ⟨rfl, rfl⟩ := Prod.mk.inj (Option.some.inj h)
        exact ⟨rfl, rfl⟩
      by_cases hfits : c.utf8Size ≤ n
      · rw [splitAtByte?_cons hfits] at h
        obtain ⟨⟨front, rest⟩, hrest, heq⟩ := Option.map_eq_some_iff.1 h
        obtain ⟨rfl, rfl⟩ := Prod.mk.inj heq
        obtain ⟨rfl, hsize⟩ := ih hrest
        refine ⟨rfl, ?_⟩
        rw [byteSize_cons]
        omega
      · rw [splitAtByte?_inside hpos (by omega)] at h
        cases h
  · rintro ⟨rfl, rfl⟩
    exact splitAtByte?_append a b

theorem fromByte?_append (a b : Text) : fromByte? (byteSize a) (a ++ b) = some b := by
  simp [fromByte?, splitAtByte?_append]

/-- A part of a text is what is between its two ends. -/
theorem slice?_append (a b rest : Text) :
    slice? (byteSize a) (byteSize a + byteSize b) (a ++ (b ++ rest)) = some b := by
  simp [slice?, fromByte?_append, splitAtByte?_append]

theorem isBoundary_iff {n : Nat} {t : Text} :
    isBoundary n t = true ↔ ∃ a b, t = a ++ b ∧ n = byteSize a := by
  rw [isBoundary, Option.isSome_iff_exists]
  constructor
  · rintro ⟨⟨a, b⟩, h⟩
    exact ⟨a, b, splitAtByte?_eq_some_iff.1 h⟩
  · rintro ⟨a, b, h⟩
    exact ⟨(a, b), splitAtByte?_eq_some_iff.2 h⟩

theorem le_byteSize_of_isBoundary {n : Nat} {t : Text} (h : isBoundary n t = true) :
    n ≤ byteSize t := by
  obtain ⟨a, b, rfl, rfl⟩ := isBoundary_iff.1 h
  rw [byteSize_append]
  exact Nat.le_add_right _ _

theorem fromByte?_isSome_iff {start : Nat} {t : Text} : (fromByte? start t).isSome = true ↔
    start ≤ byteSize t ∧ isBoundary start t = true := by
  have hboundary : (fromByte? start t).isSome = isBoundary start t := Option.isSome_map
  rw [hboundary]
  exact ⟨fun h => ⟨le_byteSize_of_isBoundary h, h⟩, fun h => h.2⟩

/-- The places for a cut behind a beginning of a text are those of what comes after it. -/
theorem isBoundary_append (a b : Text) (n : Nat) :
    isBoundary (byteSize a + n) (a ++ b) = isBoundary n b := by
  induction a with
  | nil => rw [byteSize_nil, Nat.zero_add, List.nil_append]
  | cons c r ih =>
    have hfits : c.utf8Size ≤ byteSize (c :: r) + n := by
      rw [byteSize_cons]
      omega
    have hsize : byteSize (c :: r) + n - c.utf8Size = byteSize r + n := by
      rw [byteSize_cons]
      omega
    rw [isBoundary, List.cons_append, splitAtByte?_cons hfits, Option.isSome_map, hsize]
    exact ih

/-- A part of a text can be cut out if both of its ends are places for a cut, in this order. -/
theorem slice?_isSome_iff {start stop : Nat} {t : Text} : (slice? start stop t).isSome = true ↔
    start ≤ stop ∧ stop ≤ byteSize t ∧ isBoundary start t = true ∧ isBoundary stop t = true := by
  unfold slice?
  by_cases horder : start ≤ stop
  · cases hstart : isBoundary start t with
    | true =>
      obtain ⟨a, b, rfl, rfl⟩ := isBoundary_iff.1 hstart
      obtain ⟨n, rfl⟩ := Nat.exists_eq_add_of_le horder
      have hpart : ((splitAtByte? n b).map Prod.fst).isSome = isBoundary n b := Option.isSome_map
      rw [if_pos horder, fromByte?_append, Option.bind_some, Nat.add_sub_cancel_left, hpart,
        ← isBoundary_append a b n]
      exact ⟨fun h => ⟨horder, le_byteSize_of_isBoundary h, rfl, h⟩, fun h => h.2.2.2⟩
    | false =>
      have hnothing : fromByte? start t = none := by
        rw [← Option.not_isSome_iff_eq_none, fromByte?_isSome_iff, hstart]
        simp
      rw [if_pos horder, hnothing]
      simp
  · rw [if_neg horder]
    simp [horder]

/-! ## The next place for a cut -/

theorem dropBytes_append (a b : Text) : dropBytes (byteSize a) (a ++ b) = b := by
  induction a with
  | nil => cases b <;> rfl
  | cons c r ih =>
    have hpos := c.utf8Size_pos
    have hne : ¬ c.utf8Size + byteSize r = 0 := by omega
    have hsize : c.utf8Size + byteSize r - c.utf8Size = byteSize r := by omega
    rw [byteSize_cons, List.cons_append, dropBytes, if_neg hne, hsize, ih]

/-- A character that is cut in two is not kept, so the cut may as well be one byte later. -/
theorem dropBytes_succ {n : Nat} {t : Text} (h : isBoundary n t = false) :
    dropBytes (n + 1) t = dropBytes n t := by
  induction t generalizing n with
  | nil => rfl
  | cons c r ih =>
    have hne : n ≠ 0 := by
      rintro rfl
      cases h
    rw [dropBytes, dropBytes, if_neg hne, if_neg (Nat.succ_ne_zero n)]
    by_cases hfits : c.utf8Size ≤ n
    · have hinner : isBoundary (n - c.utf8Size) r = false := by
        rw [isBoundary, splitAtByte?_cons hfits] at h
        simpa [isBoundary] using h
      rw [← ih hinner, Nat.sub_add_comm hfits]
    · have hnothing : n + 1 - c.utf8Size = n - c.utf8Size := by omega
      rw [hnothing]

/-- The next place for a cut is found before the end of the text, and is where `dropBytes` cuts. -/
theorem exists_boundaryFrom {n turns : Nat} {t : Text} (hn : n ≤ byteSize t)
    (hturns : byteSize t < n + turns) :
    ∃ start, boundaryFrom? t turns n = some start ∧ fromByte? start t = some (dropBytes n t) := by
  induction turns generalizing n with
  | zero => omega
  | succ turns ih =>
    cases hboundary : isBoundary n t with
    | true =>
      obtain ⟨a, b, rfl, rfl⟩ := isBoundary_iff.1 hboundary
      refine ⟨byteSize a, ?_, ?_⟩
      · simp [boundaryFrom?, hboundary]
      · rw [fromByte?_append, dropBytes_append]
    | false =>
      have hinside : n ≠ byteSize t := by
        intro hend
        have hwhole : isBoundary n t = true :=
          isBoundary_iff.2 ⟨t, [], (List.append_nil t).symm, hend⟩
        rw [hwhole] at hboundary
        cases hboundary
      obtain ⟨start, hfound, hfrom⟩ := ih (n := n + 1) (by omega) (by omega)
      refine ⟨start, ?_, ?_⟩
      · simpa [boundaryFrom?, hboundary] using hfound
      · rw [hfrom, dropBytes_succ hboundary]

/-! ## The last place for a cut -/

theorem dropBytesBefore_zero (t : Text) : dropBytesBefore 0 t = t := by
  cases t with
  | nil => rfl
  | cons c r => exact if_pos c.utf8Size_pos

/-- A character that is cut in two is kept, so the cut may as well be one byte earlier. -/
theorem dropBytesBefore_succ {n : Nat} {t : Text} (h : isBoundary (n + 1) t = false) :
    dropBytesBefore (n + 1) t = dropBytesBefore n t := by
  induction t generalizing n with
  | nil => rfl
  | cons c r ih =>
    have hsize : c.utf8Size ≠ n + 1 := by
      intro hsize
      have hboundary : isBoundary (n + 1) (c :: r) = true :=
        isBoundary_iff.2 ⟨[c], r, rfl, by simp [hsize]⟩
      rw [h] at hboundary
      cases hboundary
    rw [dropBytesBefore, dropBytesBefore]
    by_cases hinside : n + 1 < c.utf8Size
    · rw [if_pos hinside, if_pos (Nat.lt_of_succ_lt hinside)]
    · have hfits : c.utf8Size ≤ n := by omega
      have hinner : isBoundary (n - c.utf8Size + 1) r = false := by
        rw [isBoundary, splitAtByte?_cons (Nat.le_succ_of_le hfits)] at h
        simpa [isBoundary, Nat.sub_add_comm hfits] using h
      rw [if_neg hinside, if_neg (Nat.not_lt.2 hfits), Nat.sub_add_comm hfits, ih hinner]

/-- The last place for a cut is found, and is where `dropBytesBefore` cuts. -/
theorem exists_floorBoundary (n : Nat) (t : Text) :
    ∃ front, t = front ++ dropBytesBefore n t ∧ floorBoundary t n = byteSize front := by
  induction n with
  | zero => exact ⟨[], (dropBytesBefore_zero t).symm, rfl⟩
  | succ n ih =>
    cases hboundary : isBoundary (n + 1) t with
    | true =>
      obtain ⟨a, b, rfl, hsize⟩ := isBoundary_iff.1 hboundary
      refine ⟨a, ?_, ?_⟩
      · rw [hsize, dropBytesBefore_append b (Nat.le_refl _), Nat.sub_self, dropBytesBefore_zero]
      · rw [floorBoundary, if_pos hboundary, hsize]
    | false =>
      obtain ⟨front, happ, hfloor⟩ := ih
      refine ⟨front, ?_, ?_⟩
      · rw [dropBytesBefore_succ hboundary]
        exact happ
      · rw [floorBoundary, if_neg (by simp [hboundary]), hfloor]

end Text
end ContractAssist
