import ContractAssist.Proofs.Text.Occurrence
import ContractAssist.Text.CaseTable

/-!
# Text.LowerCase — a phrase does not see the difference between two lower-case forms

`Text.folded` leaves alone whatever no ASCII phrase can see.  Where it differs from the full
lower-case form of a text, both have characters there, and none of them is an ASCII character:

1. `AlikeInAscii` relates two texts of this kind, and `AlikeInAscii.occurs` says that an ASCII
   phrase occurs in one if it occurs in the other;
2. `CaseTable.alike_lower`: so it is with the two lower-case forms of a text, for any table;
3. `CaseTable.samePhrases_lower` draws the conclusion.
-/

namespace ContractAssist
namespace Text

def Ascii (t : Text) : Prop :=
  ∀ c ∈ t, c.toNat < 128

instance (t : Text) : Decidable (Ascii t) :=
  decidable_of_iff (t.all fun c => c.toNat < 128) (by simp [Ascii])

structure Foreign (t : Text) : Prop where
  nonempty : t ≠ []
  -- none of them is an ASCII character
  all : ∀ c ∈ t, 128 ≤ c.toNat

/-- Two texts that differ only in places where both have characters other than ASCII ones. -/
inductive AlikeInAscii : Text → Text → Prop where
  | nil : AlikeInAscii [] []
  | same {t u} (c : Char) (h : AlikeInAscii t u) : AlikeInAscii (c :: t) (c :: u)
  | other {a b t u} (ha : Foreign a) (hb : Foreign b) (h : AlikeInAscii t u) :
      AlikeInAscii (a ++ t) (b ++ u)

variable {needle t u a : Text}

theorem AlikeInAscii.symm (h : AlikeInAscii t u) : AlikeInAscii u t := by
  induction h with
  | nil => exact .nil
  | same c _ ih => exact .same c ih
  | other ha hb _ ih => exact .other hb ha ih

/-- A phrase has no beginning in common with foreign characters. -/
theorem Foreign.eq_nil_of_prefix (ha : Foreign a) (hn : Ascii needle) (h : needle <+: a ++ t) :
    needle = [] := by
  obtain ⟨c, a', rfl⟩ := List.exists_cons_of_ne_nil ha.nonempty
  cases needle with
  | nil => rfl
  | cons d needle' =>
    obtain ⟨rfl, -⟩ := List.cons_prefix_cons.1 h
    have hforeign := ha.all d List.mem_cons_self
    have hascii := hn d List.mem_cons_self
    omega

/-- A phrase that occurs behind foreign characters does not reach into them. -/
theorem Foreign.infix_of_infix_append (ha : Foreign a) (hn : Ascii needle)
    (h : needle <:+: a ++ t) : needle <:+: t := by
  have hall := ha.all
  clear ha
  induction a with
  | nil => exact h
  | cons c a ih =>
    rcases List.infix_cons_iff.1 h with hfront | hpart
    · have hempty : needle = [] :=
        Foreign.eq_nil_of_prefix (a := [c]) ⟨by simp, by simpa using hall c⟩ hn hfront
      rw [hempty]
      exact List.nil_infix
    · exact ih hpart fun d hd => hall d (List.mem_cons_of_mem c hd)

theorem AlikeInAscii.begins (h : AlikeInAscii t u) (hn : Ascii needle) (hfront : needle <+: t) :
    needle <+: u := by
  induction h generalizing needle with
  | nil => exact hfront
  | same c _ ih =>
    cases needle with
    | nil => exact List.nil_prefix
    | cons d needle' =>
      obtain ⟨rfl, hrest⟩ := List.cons_prefix_cons.1 hfront
      exact List.cons_prefix_cons.2
        ⟨rfl, ih (fun e he => hn e (List.mem_cons_of_mem d he)) hrest⟩
  | other ha _ _ _ =>
    rw [ha.eq_nil_of_prefix hn hfront]
    exact List.nil_prefix

/-- An ASCII phrase occurs in one if it occurs in the other. -/
theorem AlikeInAscii.occurs (h : AlikeInAscii t u) (hn : Ascii needle) (hpart : needle <:+: t) :
    needle <:+: u := by
  induction h with
  | nil => exact hpart
  | same c hrest ih =>
    rcases List.infix_cons_iff.1 hpart with hfront | hpart
    · exact ((AlikeInAscii.same c hrest).begins hn hfront).isInfix
    · exact (ih hpart).trans (List.suffix_cons c _).isInfix
  | other ha _ _ ih =>
    exact (ih (ha.infix_of_infix_append hn hpart)).trans (List.suffix_append _ _).isInfix

def SamePhrases (t u : Text) : Prop :=
  ∀ needle, Ascii needle → contains needle t = contains needle u

theorem AlikeInAscii.samePhrases (h : AlikeInAscii t u) : SamePhrases t u := by
  intro needle hn
  rw [Bool.eq_iff_iff, contains_iff, contains_iff]
  exact ⟨h.occurs hn, h.symm.occurs hn⟩

theorem SamePhrases.containsAny_eq (h : SamePhrases t u) {needles : List Text}
    (hn : ∀ needle ∈ needles, Ascii needle) : containsAny needles t = containsAny needles u := by
  unfold containsAny
  induction needles with
  | nil => rfl
  | cons needle r ih =>
    obtain ⟨hneedle, hr⟩ := List.forall_mem_cons.1 hn
    rw [List.any_cons, List.any_cons, h needle hneedle, ih hr]

end Text

namespace CaseTable

open Text

variable (w : CaseTable)

theorem foreign_singleton {c : Char} (h : 128 ≤ c.toNat) : Foreign [c] :=
  ⟨by simp, by simpa using h⟩

theorem foldedChar_of_ascii {c : Char} (h : c.toNat < 128) : foldedChar c = [c.toLower] := by
  have hdotted : c ≠ '\u0130' := by
    rintro rfl
    exact absurd h (by decide)
  have hkelvin : c ≠ '\u212A' := by
    rintro rfl
    exact absurd h (by decide)
  simp [foldedChar, hdotted, hkelvin]

theorem foldedChar_of_foreign {c : Char} (h : 128 ≤ c.toNat) (hdotted : c ≠ '\u0130')
    (hkelvin : c ≠ '\u212A') : foldedChar c = [c] := by
  have hcapital : ¬ (c.val ≥ 'A'.val ∧ c.val ≤ 'Z'.val) := by
    intro hc
    have hle : c.toNat ≤ 90 := UInt32.le_iff_toNat_le.1 hc.2
    omega
  have hlower : c.toLower = c := dif_neg hcapital
  simp [foldedChar, hdotted, hkelvin, hlower]

/-- Any table gives a character a form like the one that `Text.folded` gives it. -/
theorem alike_form (c : Char) {t u : Text} (h : AlikeInAscii t u) :
    AlikeInAscii (w.form c ++ t) (foldedChar c ++ u) := by
  by_cases hascii : c.toNat < 128
  · rw [w.form_ascii c hascii, foldedChar_of_ascii hascii]
    exact .same _ h
  by_cases hdotted : c = '\u0130'
  · rw [hdotted, w.form_dotted]
    exact .same _ (.same _ h)
  by_cases hkelvin : c = '\u212A'
  · rw [hkelvin, w.form_kelvin]
    exact .same _ h
  have hforeign : 128 ≤ c.toNat := Nat.le_of_not_lt hascii
  obtain ⟨hne, hall⟩ := w.form_other c hforeign hdotted hkelvin
  rw [foldedChar_of_foreign hforeign hdotted hkelvin]
  exact .other ⟨hne, hall⟩ (foreign_singleton hforeign) h

theorem foreign_sigma (before after : Text) : Foreign [w.sigma before after] := by
  unfold sigma
  split
  · exact foreign_singleton (by decide)
  · exact foreign_singleton (by decide)

theorem alike_lowerBehind (before t : Text) : AlikeInAscii (w.lowerBehind before t) (folded t) := by
  induction t generalizing before with
  | nil => exact .nil
  | cons c r ih =>
    have hrest := ih (c :: before)
    rw [lowerBehind, folded, List.flatMap_cons]
    by_cases hsigma : c = 'Σ'
    · rw [if_pos hsigma, hsigma]
      exact .other (w.foreign_sigma before r) (foreign_singleton (by decide)) (hsigma ▸ hrest)
    · rw [if_neg hsigma]
      exact w.alike_form c hrest

/-- Phrases do not see the difference between the full lower-case form and the shorter one. -/
theorem samePhrases_lower (t : Text) : SamePhrases (w.lower t) (folded t) :=
  (w.alike_lowerBehind [] t).samePhrases

/-! ## A table -/

/-- A capital letter of the Greek alphabet; none stands between the rho and the sigma. -/
def isGreekCapital (c : Char) : Bool :=
  let n := c.toNat
  0x391 ≤ n && n ≤ 0x3A9 && n != 0x3A2

/-- A small letter of the Greek alphabet, the final sigma among them. -/
def isGreekSmall (c : Char) : Bool :=
  let n := c.toNat
  0x3B1 ≤ n && n ≤ 0x3C9

/-- A table that knows the letters of English and Greek, and the marks that join letters. -/
def greek : CaseTable where
  form c := if isGreekCapital c then [Char.ofNat (c.toNat + 32)] else foldedChar c
  cased c := c.isAlpha || isGreekCapital c || isGreekSmall c
  ignorable c := c == '.' || c == ':' || c == '\'' || (0x300 ≤ c.toNat && c.toNat ≤ 0x36F)
  form_ascii := by
    intro c hc
    have hlatin : ¬ isGreekCapital c = true := by
      simp only [isGreekCapital, Bool.and_eq_true, decide_eq_true_eq]
      omega
    rw [if_neg hlatin, foldedChar_of_ascii hc]
  form_dotted := by decide
  form_kelvin := by decide
  form_other := by
    intro c hc hdotted hkelvin
    by_cases hgreek : isGreekCapital c = true
    · have hrange : c.toNat ≤ 0x3A9 := by
        simp only [isGreekCapital, Bool.and_eq_true, decide_eq_true_eq] at hgreek
        exact hgreek.1.2
      have hsmall : (Char.ofNat (c.toNat + 32)).toNat = c.toNat + 32 := by
        rw [Char.ofNat, dif_pos (.inl (by omega))]
        rfl
      rw [if_pos hgreek]
      exact ⟨List.cons_ne_nil _ _, fun d hd => by rw [List.mem_singleton.1 hd, hsmall]; omega⟩
    · rw [if_neg hgreek, foldedChar_of_foreign hc hdotted hkelvin]
      exact ⟨List.cons_ne_nil _ _, fun d hd => by rwa [List.mem_singleton.1 hd]⟩

/-- The last letter of a word is not the same in the middle of one. -/
example : greek.lower "\u039F\u0394\u039F\u03A3, \u03A3\u0391\u03A3" = ("οδος, σας" : Text) := by
  decide

end CaseTable
end ContractAssist
