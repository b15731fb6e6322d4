import ContractAssist.Proofs.Text.Basic
import ContractAssist.Text.LowerCase

/-!
# Text.Occurrence — looking for phrases

* `contains_iff`: a phrase occurs in a text iff it is one of its infixes, so it occurs in every text
  that the text is part of (`contains_of_part`);
* `contains_padded`: blanks around a text never matter to a phrase that neither begins nor ends with
  one;
* `folded_padded`: lower-casing keeps the blanks around a text.
-/

namespace ContractAssist
namespace Text

/-! ## Infixes -/

theorem contains_iff {needle t : Text} : contains needle t = true ↔ needle <:+: t := by
  induction t with
  | nil => simp [contains]
  | cons c r ih => simp [contains, List.infix_cons_iff, ih]

/-- A phrase that occurs in a part of a text occurs in the text. -/
theorem contains_of_part {needle t u : Text} (h : contains needle t = true) (htu : t <:+: u) :
    contains needle u = true :=
  contains_iff.2 ((contains_iff.1 h).trans htu)

theorem containsAny_of_part {needles : List Text} {t u : Text} (h : containsAny needles t = true)
    (htu : t <:+: u) : containsAny needles u = true := by
  obtain ⟨needle, hmem, hneedle⟩ := List.any_eq_true.1 h
  exact List.any_eq_true.2 ⟨needle, hmem, contains_of_part hneedle htu⟩

theorem contains_eq_false_of_part {needle t u : Text} (h : contains needle u = false)
    (htu : t <:+: u) : contains needle t = false := by
  cases ht : contains needle t with
  | false => rfl
  | true => exact (contains_of_part ht htu).symm.trans h

/-! ## Phrases without blanks at their ends -/

/-- A phrase that is not empty and has no blank at either end. -/
structure Phrase (needle : Text) : Prop extends Trimmed needle where
  nonempty : needle ≠ []

def isPhrase (needle : Text) : Bool :=
  needle.head?.any (fun c => !isBlank c) && needle.getLast?.any (fun c => !isBlank c)

theorem isPhrase_iff {needle : Text} : isPhrase needle = true ↔ Phrase needle := by
  constructor
  · intro h
    simp only [isPhrase, Bool.and_eq_true, Option.any_eq_true] at h
    obtain ⟨⟨c, hc, hcblank⟩, d, hd, hdblank⟩ := h
    refine ⟨⟨?_, ?_⟩, ?_⟩
    · intro c' hc'
      obtain rfl : c = c' := Option.some.inj (hc.symm.trans hc')
      simpa using hcblank
    · intro d' hd'
      obtain rfl : d = d' := Option.some.inj (hd.symm.trans hd')
      simpa using hdblank
    · rintro rfl
      cases hc
  · intro h
    simp only [isPhrase, Bool.and_eq_true, Option.any_eq_true]
    refine ⟨⟨needle.head h.nonempty, List.head?_eq_some_head h.nonempty, ?_⟩,
      needle.getLast h.nonempty, List.getLast?_eq_some_getLast h.nonempty, ?_⟩
    · simp [h.head _ (List.head?_eq_some_head h.nonempty)]
    · simp [h.last _ (List.getLast?_eq_some_getLast h.nonempty)]

instance (needle : Text) : Decidable (Phrase needle) :=
  decidable_of_iff (isPhrase needle = true) isPhrase_iff

/-- The blanks in front of a text hold no beginning of a phrase. -/
theorem infix_of_infix_front {needle front t : Text} (hn : needle ≠ [])
    (hhead : ∀ c, needle.head? = some c → isBlank c = false) (hfront : allBlank front = true)
    (h : needle <:+: front ++ t) : needle <:+: t := by
  rw [allBlank_iff] at hfront
  induction front with
  | nil => exact h
  | cons c r ih =>
    rcases List.infix_cons_iff.1 h with hprefix | hinfix
    · exfalso
      obtain ⟨d, needle', rfl⟩ := List.exists_cons_of_ne_nil hn
      have hd : d = c := (List.cons_prefix_cons.1 hprefix).1
      have hblank : isBlank c = true := hfront c List.mem_cons_self
      rw [← hd, hhead d rfl] at hblank
      exact Bool.false_ne_true hblank
    · exact ih (fun d hd => hfront d (List.mem_cons_of_mem c hd)) hinfix

/-- Blanks around a text do not matter to a phrase. -/
theorem infix_padded_iff {needle front t back : Text} (hn : Phrase needle)
    (hfront : allBlank front = true) (hback : allBlank back = true) :
    needle <:+: front ++ t ++ back ↔ needle <:+: t := by
  constructor
  · intro h
    rw [List.append_assoc] at h
    have hrest : needle <:+: t ++ back :=
      infix_of_infix_front hn.nonempty hn.head hfront h
    -- read from the end, the blanks behind the text stand in front of it
    have hreversed : needle.reverse <:+: back.reverse ++ t.reverse := by
      simpa using List.reverse_infix.2 hrest
    refine List.reverse_infix.1 (infix_of_infix_front ?_ ?_ ?_ hreversed)
    · simpa using hn.nonempty
    · simpa using hn.last
    · simpa [allBlank] using hback
  · intro h
    exact h.trans (List.infix_append front t back)

theorem contains_padded {needle front t back : Text} (hn : Phrase needle)
    (hfront : allBlank front = true) (hback : allBlank back = true) :
    contains needle (front ++ t ++ back) = contains needle t := by
  rw [Bool.eq_iff_iff, contains_iff, contains_iff, infix_padded_iff hn hfront hback]

theorem containsAny_padded {needles : List Text} {front t back : Text}
    (hn : ∀ needle ∈ needles, Phrase needle) (hfront : allBlank front = true)
    (hback : allBlank back = true) :
    containsAny needles (front ++ t ++ back) = containsAny needles t := by
  rw [Bool.eq_iff_iff]
  simp only [containsAny, List.any_eq_true]
  constructor
  · rintro ⟨needle, hmem, h⟩
    exact ⟨needle, hmem, by rwa [contains_padded (hn needle hmem) hfront hback] at h⟩
  · rintro ⟨needle, hmem, h⟩
    exact ⟨needle, hmem, by rwa [contains_padded (hn needle hmem) hfront hback]⟩

/-! ## Lower case -/

/-- A blank has no other form in lower case. -/
theorem toLower_of_isBlank {c : Char} (h : isBlank c = true) : c.toLower = c := by
  have hcapital : ¬ (65 ≤ c.toNat ∧ c.toNat ≤ 90) := by
    simp only [isBlank, Bool.or_eq_true, Bool.and_eq_true, decide_eq_true_eq, beq_iff_eq] at h
    omega
  have hval : ¬ (c.val ≥ 'A'.val ∧ c.val ≤ 'Z'.val) := by
    intro hc
    exact hcapital ⟨UInt32.le_iff_toNat_le.1 hc.1, UInt32.le_iff_toNat_le.1 hc.2⟩
  exact dif_neg hval

theorem foldedChar_of_isBlank {c : Char} (h : isBlank c = true) : foldedChar c = [c] := by
  have hdotted : c ≠ '\u0130' := by
    rintro rfl
    exact absurd h (by decide)
  have hkelvin : c ≠ '\u212A' := by
    rintro rfl
    exact absurd h (by decide)
  simp [foldedChar, hdotted, hkelvin, toLower_of_isBlank h]

theorem folded_of_allBlank {t : Text} (h : allBlank t = true) : folded t = t := by
  rw [allBlank_iff] at h
  induction t with
  | nil => rfl
  | cons c r ih =>
    have hc : foldedChar c = [c] := foldedChar_of_isBlank (h c List.mem_cons_self)
    have hr : folded r = r := ih fun d hd => h d (List.mem_cons_of_mem c hd)
    simp only [folded] at hr
    simp [folded, hc, hr]

theorem folded_append (t u : Text) : folded (t ++ u) = folded t ++ folded u :=
  List.flatMap_append

theorem folded_part {t u : Text} (h : t <:+: u) : folded t <:+: folded u := by
  obtain ⟨front, back, rfl⟩ := h
  rw [folded_append, folded_append]
  exact List.infix_append _ _ _

/-- Lower-casing keeps the blanks around a text. -/
theorem folded_padded {front t back : Text} (hfront : allBlank front = true)
    (hback : allBlank back = true) :
    folded (front ++ t ++ back) = front ++ folded t ++ back := by
  rw [folded_append, folded_append, folded_of_allBlank hfront, folded_of_allBlank hback]

end Text
end ContractAssist
