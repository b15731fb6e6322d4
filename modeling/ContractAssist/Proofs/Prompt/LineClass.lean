import ContractAssist.Proofs.Text.Occurrence
import ContractAssist.Prompt.LineClass

/-!
# LineClass — blanks around a line do not change its meaning

Every rule of `classify` looks for phrases that neither begin nor end with a blank, or for the first
visible character. So:

* `classify_padded`: a line with blanks around it has the class of the line;
* `classify_trim`: a prompt that keeps the trimmed text of its line still has the class of the line;
* `classify_of_allBlank`: a line of blanks means nothing.
-/

namespace ContractAssist
namespace LineClass

open Text

variable {front line back : Text}

/-- The success glyph comes first iff it is the first visible character. -/
theorem startsWithGlyph_iff :
    startsWithGlyph line = true ↔ line.find? (fun c => !isBlank c) = some successGlyph := by
  have hhead : (line.dropWhile isBlank).head? = line.find? (fun c => !isBlank c) := by
    induction line with
    | nil => rfl
    | cons c r ih => cases hc : isBlank c <;> simp [hc, ih]
  rw [← hhead]
  cases h : line.dropWhile isBlank with
  | nil => simp [startsWithGlyph, trimStart, h]
  | cons c r =>
    simp only [startsWithGlyph, trimStart, h, List.isPrefixOf_iff_prefix, List.cons_prefix_cons,
      List.nil_prefix, and_true, List.head?_cons, Option.some.injEq]
    exact eq_comm

theorem find?_visible_of_allBlank (h : allBlank front = true) :
    front.find? (fun c => !isBlank c) = none := by
  rw [allBlank_iff] at h
  simpa [List.find?_eq_none] using h

theorem startsWithGlyph_padded (hfront : allBlank front = true) (hback : allBlank back = true) :
    startsWithGlyph (front ++ line ++ back) = startsWithGlyph line := by
  rw [Bool.eq_iff_iff, startsWithGlyph_iff, startsWithGlyph_iff, List.find?_append,
    List.find?_append, find?_visible_of_allBlank hfront, find?_visible_of_allBlank hback]
  simp

theorem elem_glyph_padded (hfront : allBlank front = true) (hback : allBlank back = true) :
    List.elem successGlyph (front ++ line ++ back) = List.elem successGlyph line := by
  rw [allBlank_iff] at hfront hback
  have hglyph : isBlank successGlyph ≠ true := by decide
  have hf : successGlyph ∉ front := fun h => hglyph (hfront _ h)
  have hb : successGlyph ∉ back := fun h => hglyph (hback _ h)
  simp [hf, hb]

/-! ## The rules, one by one -/

theorem asksForKeypair_padded (lower : Text) (hfront : allBlank front = true)
    (hback : allBlank back = true) :
    asksForKeypair (front ++ line ++ back) (front ++ lower ++ back) =
      asksForKeypair line lower := by
  unfold asksForKeypair
  rw [contains_padded (by decide) hfront hback, contains_padded (by decide) hfront hback,
    contains_padded (by decide) hfront hback, contains_padded (by decide) hfront hback]

theorem asksForPassword_padded (lower : Text) (hfront : allBlank front = true)
    (hback : allBlank back = true) :
    asksForPassword (front ++ line ++ back) (front ++ lower ++ back) =
      asksForPassword line lower := by
  unfold asksForPassword
  rw [contains_padded (by decide) hfront hback, contains_padded (by decide) hfront hback,
    contains_padded (by decide) hfront hback, startsWithGlyph_padded hfront hback,
    containsAny_padded (by decide) hfront hback]

theorem passwordContext_padded (lower : Text) (hfront : allBlank front = true)
    (hback : allBlank back = true) :
    passwordContext (front ++ lower ++ back) = passwordContext lower := by
  unfold passwordContext
  rw [containsAny_padded (by decide) hfront hback, containsAny_padded (by decide) hfront hback]

theorem retryContext_padded (lower : Text) (hfront : allBlank front = true)
    (hback : allBlank back = true) :
    retryContext (front ++ lower ++ back) = retryContext lower := by
  unfold retryContext
  rw [passwordContext_padded lower hfront hback, contains_padded (by decide) hfront hback,
    contains_padded (by decide) hfront hback]

theorem acceptsPassword_padded (lower : Text) (hfront : allBlank front = true)
    (hback : allBlank back = true) :
    acceptsPassword (front ++ line ++ back) (front ++ lower ++ back) =
      acceptsPassword line lower := by
  unfold acceptsPassword
  rw [elem_glyph_padded hfront hback, contains_padded (by decide) hfront hback,
    contains_padded (by decide) hfront hback]

theorem rejectsPassword_padded (lower : Text) (hfront : allBlank front = true)
    (hback : allBlank back = true) :
    rejectsPassword (front ++ line ++ back) (front ++ lower ++ back) =
      rejectsPassword line lower := by
  unfold rejectsPassword
  rw [startsWithGlyph_padded hfront hback, containsAny_padded (by decide) hfront hback]

end LineClass

open LineClass Text

/-- Blanks around a line do not change its class. -/
theorem classify_padded {front back : Text} (line : Text) (hfront : allBlank front = true)
    (hback : allBlank back = true) : classify (front ++ line ++ back) = classify line := by
  unfold classify
  simp only [folded_padded hfront hback, acceptsPassword_padded _ hfront hback,
    rejectsPassword_padded _ hfront hback, asksForPassword_padded _ hfront hback,
    asksForKeypair_padded _ hfront hback, retryContext_padded _ hfront hback,
    passwordContext_padded _ hfront hback]

theorem classify_trim (line : Text) : classify (trim line) = classify line := by
  obtain ⟨front, back, hfront, hback, happ⟩ := exists_trim line
  calc
    classify (trim line) = classify (front ++ trim line ++ back) :=
      (classify_padded (trim line) hfront hback).symm
    _ = classify line := by rw [happ]

/-- A line of blanks means nothing. -/
theorem classify_of_allBlank {line : Text} (h : allBlank line = true) : classify line = .plain := by
  have hpadded : classify (line ++ [] ++ []) = classify [] := classify_padded [] h rfl
  rw [List.append_nil, List.append_nil] at hpadded
  rw [hpadded]
  decide

/-- A line asks a question iff it is one, or is a rejection that asks again. -/
theorem LineClass.question?_eq_some_iff {c : LineClass} {kind : PromptKind} :
    c.question? = some kind ↔ c = .prompt kind ∨ c = .passwordRejected (some kind) := by
  cases c with
  | plain => simp [question?]
  | prompt k => simp [question?]
  | passwordAccepted => simp [question?]
  | passwordRejected retry => simp [question?]

end ContractAssist
