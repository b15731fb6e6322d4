import ContractAssist.Proofs.Prompt.LineClass

/-!
# Growth — what a line keeps when it is part of a longer one

A line that is not terminated is read again with whatever follows it.  Its phrases stay, but its
class may change, since notices come before questions, and questions about a keypair before those
about a password.  So:

* `classify_isResetSignal`, `asksAbout_keypair_iff` and `asksAbout_password_iff` say which rules
  decide the class of a line, without their order;
* `rejectsPassword_of_part`, `asksForKeypair_of_part` and `asksForPassword_of_part` say which rules
  a longer line keeps: all of them, as long as it neither begins with the success glyph nor holds a
  masked secret;
* `asksAbout_keypair_of_part_iff` and `asksAbout_password_of_part_iff` draw the conclusion: what
  else has to be looked at on a line, a part of which is known to ask.
-/

namespace ContractAssist

def AsksAbout (c : PromptCategory) (line : Text) : Prop :=
  ∃ kind, (classify line).question? = some kind ∧ kind.category = c

namespace LineClass

open Text

/-! ## Classes by rules -/

variable {line : Text} {kind : PromptKind}

theorem eq_prompt_iff {c : LineClass} :
    c = .prompt kind ↔ c.question? = some kind ∧ c.isResetSignal = false := by
  cases c <;> simp [question?, isResetSignal]

theorem eq_passwordRejected_some_iff {c : LineClass} :
    c = .passwordRejected (some kind) ↔ c.question? = some kind ∧ c.isResetSignal = true := by
  cases c <;> simp [question?, isResetSignal]

/-- A notice is a line that accepts or rejects a password. -/
theorem classify_isResetSignal (line : Text) :
    (classify line).isResetSignal =
      (acceptsPassword line (folded line) || rejectsPassword line (folded line)) := by
  cases haccepts : acceptsPassword line (folded line) with
  | true => simp [classify, haccepts, isResetSignal]
  | false =>
    cases hrejects : rejectsPassword line (folded line) with
    | true => simp [classify, haccepts, hrejects, isResetSignal]
    | false =>
      cases hkeypair : asksForKeypair line (folded line) <;>
        cases hpassword : asksForPassword line (folded line) <;>
          simp [classify, haccepts, hrejects, hkeypair, hpassword, isResetSignal]

/-- A question about a keypair is on no notice. -/
theorem asksAbout_keypair_iff :
    AsksAbout .keypair line ↔
      acceptsPassword line (folded line) = false ∧ rejectsPassword line (folded line) = false ∧
        asksForKeypair line (folded line) = true := by
  cases haccepts : acceptsPassword line (folded line) with
  | true => simp [AsksAbout, classify, haccepts, question?]
  | false =>
    cases hrejects : rejectsPassword line (folded line) with
    | true => simp [AsksAbout, classify, haccepts, hrejects, question?, PromptKind.category]
    | false =>
      cases hkeypair : asksForKeypair line (folded line) <;>
        cases hpassword : asksForPassword line (folded line) <;>
          simp [AsksAbout, classify, haccepts, hrejects, hkeypair, hpassword, question?,
            PromptKind.category]

/-- A question about a password stands back behind one about a keypair, but not on a rejection. -/
theorem asksAbout_password_iff :
    AsksAbout .password line ↔
      acceptsPassword line (folded line) = false ∧ asksForPassword line (folded line) = true ∧
        (rejectsPassword line (folded line) = true ∨
          asksForKeypair line (folded line) = false) := by
  cases haccepts : acceptsPassword line (folded line) with
  | true => simp [AsksAbout, classify, haccepts, question?]
  | false =>
    cases hrejects : rejectsPassword line (folded line) with
    | true =>
      cases hpassword : asksForPassword line (folded line) <;>
        simp [AsksAbout, classify, haccepts, hrejects, hpassword, question?, PromptKind.category]
    | false =>
      cases hkeypair : asksForKeypair line (folded line) <;>
        cases hpassword : asksForPassword line (folded line) <;>
          simp [AsksAbout, classify, haccepts, hrejects, hkeypair, hpassword, question?,
            PromptKind.category]

/-- What a rejecting line asks for is a password. -/
theorem category_of_passwordRejected (h : classify line = .passwordRejected (some kind)) :
    kind.category = .password := by
  obtain ⟨hkind, hsignal⟩ := eq_passwordRejected_some_iff.1 h
  cases hcategory : kind.category with
  | password => rfl
  | keypair =>
    obtain ⟨haccepts, hrejects, -⟩ := asksAbout_keypair_iff.1 ⟨kind, hkind, hcategory⟩
    simp [classify_isResetSignal, haccepts, hrejects] at hsignal

theorem rejectsPassword_of_passwordRejected {retry : Option PromptKind}
    (h : classify line = .passwordRejected retry) :
    rejectsPassword line (folded line) = true := by
  cases hrejects : rejectsPassword line (folded line) with
  | true => rfl
  | false =>
    -- without a failure phrase, none of the other rules gives this class
    cases haccepts : acceptsPassword line (folded line) <;>
      cases hkeypair : asksForKeypair line (folded line) <;>
        cases hpassword : asksForPassword line (folded line) <;>
          simp [classify, haccepts, hrejects, hkeypair, hpassword] at h

/-! ## The success glyph -/

theorem startsWithGlyph_eq_false_of_not_mem (h : successGlyph ∉ line) :
    startsWithGlyph line = false := by
  cases hstarts : startsWithGlyph line with
  | false => rfl
  | true => exact absurd (List.mem_of_find?_eq_some (startsWithGlyph_iff.1 hstarts)) h

theorem acceptsPassword_eq_false_of_not_mem (h : successGlyph ∉ line) :
    acceptsPassword line (folded line) = false := by
  simp [acceptsPassword, h]

/-- Once something visible stands on a line, the beginning of the line is settled. -/
theorem startsWithGlyph_append (rest : Text) (h : allBlank line = false) :
    startsWithGlyph (line ++ rest) = startsWithGlyph line := by
  have hvisible : line.find? (fun c => !isBlank c) ≠ none := by
    intro hnone
    have hall : allBlank line = true := by
      rw [allBlank_iff]
      simpa [List.find?_eq_none] using hnone
    rw [hall] at h
    cases h
  obtain ⟨c, hc⟩ := Option.ne_none_iff_exists'.1 hvisible
  rw [Bool.eq_iff_iff, startsWithGlyph_iff, startsWithGlyph_iff, List.find?_append, hc,
    Option.some_or]

theorem startsWithGlyph_append_eq_false {rest : Text} (hline : startsWithGlyph line = false)
    (hrest : startsWithGlyph rest = false) : startsWithGlyph (line ++ rest) = false := by
  rw [Bool.eq_false_iff, ne_eq, startsWithGlyph_iff] at hline hrest ⊢
  rw [List.find?_append, Option.or_eq_some_iff]
  rintro (hfirst | ⟨-, hfirst⟩)
  · exact hline hfirst
  · exact hrest hfirst

/-! ## Rules that a longer line keeps -/

variable {part : Text}

theorem asksForKeypair_of_part (h : asksForKeypair part (folded part) = true)
    (hpart : part <:+: line) : asksForKeypair line (folded line) = true := by
  have hfolded := folded_part hpart
  simp only [asksForKeypair, Bool.and_eq_true, Bool.or_eq_true] at h ⊢
  obtain ⟨⟨hkeypair, hfound⟩, hanswers⟩ := h
  refine ⟨⟨contains_of_part hkeypair hfolded, contains_of_part hfound hfolded⟩, ?_⟩
  rcases hanswers with hupper | hlower
  · exact .inl (contains_of_part hupper hpart)
  · exact .inr (contains_of_part hlower hpart)

theorem rejectsPassword_of_part (h : rejectsPassword part (folded part) = true)
    (hpart : part <:+: line) (hglyph : startsWithGlyph line = false) :
    rejectsPassword line (folded line) = true := by
  simp only [rejectsPassword, Bool.and_eq_true] at h ⊢
  exact ⟨by rw [hglyph]; rfl, containsAny_of_part h.2 (folded_part hpart)⟩

theorem asksForPassword_of_part (h : asksForPassword part (folded part) = true)
    (hpart : part <:+: line) (hglyph : startsWithGlyph line = false)
    (hmasked : contains maskedMarker line = false) :
    asksForPassword line (folded line) = true := by
  have hfolded := folded_part hpart
  simp only [asksForPassword, Bool.and_eq_true, Bool.or_eq_true] at h ⊢
  obtain ⟨⟨⟨hsubject, -⟩, -⟩, hmarkers⟩ := h
  refine ⟨⟨⟨?_, by rw [hglyph]; rfl⟩, by rw [hmasked]; rfl⟩, containsAny_of_part hmarkers hpart⟩
  rcases hsubject with hpassword | hkeystore
  · exact .inl (contains_of_part hpassword hfolded)
  · exact .inr (contains_of_part hkeystore hfolded)

/-- A question about a password shows no secret and does not begin with the success glyph. -/
theorem shown_of_asksForPassword (h : asksForPassword line (folded line) = true) :
    startsWithGlyph line = false ∧ contains maskedMarker line = false := by
  simp only [asksForPassword, Bool.and_eq_true, Bool.not_eq_true'] at h
  exact ⟨h.1.1.2, h.1.2⟩

theorem startsWithGlyph_of_rejectsPassword {lower : Text}
    (h : rejectsPassword line lower = true) : startsWithGlyph line = false := by
  simp only [rejectsPassword, Bool.and_eq_true, Bool.not_eq_true'] at h
  exact h.1

/-- A rejection stays one, whatever follows on its line. -/
theorem rejectsPassword_append (rest : Text) (h : rejectsPassword line (folded line) = true) :
    rejectsPassword (line ++ rest) (folded (line ++ rest)) = true := by
  have hvisible : allBlank line = false := by
    cases hblank : allBlank line with
    | false => rfl
    | true =>
      have hsignal := classify_isResetSignal line
      rw [h, Bool.or_true, classify_of_allBlank hblank] at hsignal
      cases hsignal
  exact rejectsPassword_of_part h (List.prefix_append line rest).isInfix
    ((startsWithGlyph_append rest hvisible).trans (startsWithGlyph_of_rejectsPassword h))

/-! ## Questions that are part of a line -/

/-- A question about a keypair is lost only on a notice. -/
theorem asksAbout_keypair_of_part_iff (h : AsksAbout .keypair part) (hpart : part <:+: line) :
    AsksAbout .keypair line ↔ (classify line).isResetSignal = false := by
  have hkeypair := asksForKeypair_of_part (asksAbout_keypair_iff.1 h).2.2 hpart
  rw [asksAbout_keypair_iff, classify_isResetSignal, Bool.or_eq_false_iff]
  exact ⟨fun ⟨haccepts, hrejects, _⟩ => ⟨haccepts, hrejects⟩,
    fun ⟨haccepts, hrejects⟩ => ⟨haccepts, hrejects, hkeypair⟩⟩

/-- A question about a password is lost in more ways, among them behind one about a keypair. -/
theorem asksAbout_password_of_part_iff (h : AsksAbout .password part) (hpart : part <:+: line) :
    AsksAbout .password line ↔
      acceptsPassword line (folded line) = false ∧ startsWithGlyph line = false ∧
        contains maskedMarker line = false ∧
        (rejectsPassword line (folded line) = true ∨
          asksForKeypair line (folded line) = false) := by
  have hpassword := (asksAbout_password_iff.1 h).2.1
  rw [asksAbout_password_iff]
  constructor
  · rintro ⟨haccepts, hasks, hfirst⟩
    exact ⟨haccepts, (shown_of_asksForPassword hasks).1, (shown_of_asksForPassword hasks).2, hfirst⟩
  · rintro ⟨haccepts, hglyph, hmasked, hfirst⟩
    exact ⟨haccepts, asksForPassword_of_part hpassword hpart hglyph hmasked, hfirst⟩

end LineClass
end ContractAssist
