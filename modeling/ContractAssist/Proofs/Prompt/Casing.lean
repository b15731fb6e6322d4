import ContractAssist.Prompt.Casing
import ContractAssist.Proofs.Prompt.Growth
import ContractAssist.Proofs.Text.LowerCase

/-!
# Casing — the class of a line that is lower-cased, padded or continued

1. `ofForms_congr`: the rules look for ASCII phrases only, so two lower-case forms in which the same
   ones occur give a line the same class;
2. `CaseTable.classOf_eq`: the full lower-case form of a line, whatever version of Unicode it is
   taken from, gives the class that `classify` gives;
3. `isResetSignal_append` and `passwordRejected_append`: what is left of a rejection when its line
   goes on;
4. `classify_stable` takes this together with the blanks around a line.
-/

namespace ContractAssist
namespace LineClass

open Text

variable {line lower lower' : Text}

/-! ## The rules, one by one -/

theorem asksForKeypair_congr (h : SamePhrases lower lower') :
    asksForKeypair line lower = asksForKeypair line lower' := by
  unfold asksForKeypair
  rw [h "keypair" (by decide), h "not found" (by decide)]

theorem asksForPassword_congr (h : SamePhrases lower lower') :
    asksForPassword line lower = asksForPassword line lower' := by
  unfold asksForPassword
  rw [h "password" (by decide), h "keystore" (by decide)]

theorem passwordContext_congr (h : SamePhrases lower lower') :
    passwordContext lower = passwordContext lower' := by
  unfold passwordContext
  rw [h.containsAny_eq (by decide), h.containsAny_eq (by decide)]

theorem retryContext_congr (h : SamePhrases lower lower') :
    retryContext lower = retryContext lower' := by
  unfold retryContext
  rw [passwordContext_congr h, h "confirm" (by decide), h "re-enter" (by decide)]

theorem acceptsPassword_congr (h : SamePhrases lower lower') :
    acceptsPassword line lower = acceptsPassword line lower' := by
  unfold acceptsPassword
  rw [h "password" (by decide), h "confirm" (by decide)]

theorem rejectsPassword_congr (h : SamePhrases lower lower') :
    rejectsPassword line lower = rejectsPassword line lower' := by
  unfold rejectsPassword
  rw [h.containsAny_eq (by decide)]

/-- The class of a line depends on its lower-case form only by the phrases in it. -/
theorem ofForms_congr (h : SamePhrases lower lower') :
    ofForms line lower = ofForms line lower' := by
  unfold ofForms
  simp only [acceptsPassword_congr h, rejectsPassword_congr h, asksForPassword_congr h,
    asksForKeypair_congr h, retryContext_congr h, passwordContext_congr h]

/-! ## Rejections that go on -/

variable {retry : Option PromptKind}

/-- A line that rejects a password stays a notice, whatever follows on it. -/
theorem isResetSignal_append (h : classify line = .passwordRejected retry) (rest : Text) :
    (classify (line ++ rest)).isResetSignal = true := by
  have hrejects := rejectsPassword_append rest (rejectsPassword_of_passwordRejected h)
  rw [classify_isResetSignal, hrejects, Bool.or_true]

/-- Only the success glyph turns a rejection into something else. -/
theorem passwordRejected_append (h : classify line = .passwordRejected retry) {rest : Text}
    (hline : successGlyph ∉ line) (hrest : successGlyph ∉ rest) :
    ∃ retry', classify (line ++ rest) = .passwordRejected retry' := by
  have hrejects := rejectsPassword_append rest (rejectsPassword_of_passwordRejected h)
  have haccepts : acceptsPassword (line ++ rest) (folded (line ++ rest)) = false :=
    acceptsPassword_eq_false_of_not_mem (by simp [hline, hrest])
  simp [classify, haccepts, hrejects]

end LineClass

open LineClass Text

/-- The full lower-case form of a line gives the class that `classify` gives. -/
theorem CaseTable.classOf_eq (w : CaseTable) (line : Text) : w.classOf line = classify line :=
  ofForms_congr (w.samePhrases_lower line)

/--
The class of a line does not depend on the version of Unicode that lower-cases it, nor on blanks
around it, so a prompt that keeps the trimmed line has its class.  And a rejection outlasts whatever
follows on its line: it stays a notice, and a rejection unless a success glyph is on the line.
-/
theorem classify_stable (line : Text) :
    (∀ w : CaseTable, w.classOf line = classify line) ∧
    (∀ front back, allBlank front = true → allBlank back = true →
      classify (front ++ line ++ back) = classify line) ∧
    (∀ kind, classify (Prompt.fresh kind line).text = classify line) ∧
    ∀ retry, classify line = .passwordRejected retry → ∀ rest,
      (classify (line ++ rest)).isResetSignal = true ∧
      (successGlyph ∉ line → successGlyph ∉ rest →
        ∃ retry', classify (line ++ rest) = .passwordRejected retry') := by
  refine ⟨fun w => w.classOf_eq line, ?_, fun _ => classify_trim line, ?_⟩
  · intro front back hfront hback
    exact classify_padded line hfront hback
  · intro retry hrejected rest
    exact ⟨isResetSignal_append hrejected rest, passwordRejected_append hrejected⟩

/-- In Greek capitals and with a Kelvin sign, a rejection is still seen to be one. -/
theorem classify_stable_capitals :
    let line : Text := "\u039F\u0394\u039F\u03A3: WRONG PASSWORD. Re-enter \u212AEYSTORE password?"
    let padded : Text := "\u2003" ++ line ++ "\u2028"
    CaseTable.greek.lower line = "οδος: wrong password. re-enter keystore password?" ∧
    CaseTable.greek.classOf line = classify line ∧
    classify line = .passwordRejected (some (.password .confirm)) ∧
    allBlank "\u2003" = true ∧ allBlank "\u2028" = true ∧ classify padded = classify line ∧
    successGlyph ∉ line ∧ (classify (line ++ "✔ ***")).isResetSignal = true ∧
    successGlyph ∉ ("***" : Text) ∧
    ∃ retry', classify (line ++ "***") = .passwordRejected retry' := by
  intro line padded
  obtain ⟨htable, hpadded, -, hrejected⟩ := classify_stable line
  have hclass : classify line = .passwordRejected (some (.password .confirm)) := by decide
  have hglyph : successGlyph ∉ line := by decide
  have hrest : successGlyph ∉ ("***" : Text) := by decide
  have hfront : allBlank "\u2003" = true := by decide
  have hback : allBlank "\u2028" = true := by decide
  exact ⟨by decide, htable .greek, hclass, hfront, hback, hpadded _ _ hfront hback, hglyph,
    (hrejected _ hclass _).1, hrest, (hrejected _ hclass _).2 hglyph hrest⟩

end ContractAssist
