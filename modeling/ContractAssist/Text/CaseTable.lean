import ContractAssist.Text.Basic

/-!
# CaseTable — the lower-case form of a text, in full

A text is lower-cased one character after another, and a character may become several.  Only the
capital sigma looks around itself: at the end of a word it becomes a final sigma.  Which form a
character has, and what is a letter, is a matter of tables that grow from one version of Unicode to
the next; all versions agree on the characters whose form has ASCII characters in it.

* `CaseTable` is such a table, with what all versions agree on;
* `CaseTable.lower` is the lower-case form of a text.
-/

namespace ContractAssist

/-- What is known about single characters. -/
structure CaseTable where
  -- the lower-case form of a character that stands alone
  form : Char → Text
  -- is it a letter in upper, lower or title case?
  cased : Char → Bool
  -- is it passed over when the letters around a sigma are looked for?
  ignorable : Char → Bool
  form_ascii : ∀ c, c.toNat < 128 → form c = [c.toLower]
  -- the capital I with a dot above keeps its dot, as a mark of its own
  form_dotted : form '\u0130' = ['i', '\u0307']
  form_kelvin : form '\u212A' = ['k']
  -- all other characters have a form, and there is no ASCII character in it
  form_other : ∀ c, 128 ≤ c.toNat → c ≠ '\u0130' → c ≠ '\u212A' →
    form c ≠ [] ∧ ∀ d ∈ form c, 128 ≤ d.toNat

namespace CaseTable

/-- The first character that is not passed over is a letter with a case. -/
def meetsLetter (w : CaseTable) (t : Text) : Bool :=
  (t.find? fun c => !w.ignorable c).any w.cased

/-- The form of a capital sigma: what stands before it, last character first, and what follows. -/
def sigma (w : CaseTable) (before after : Text) : Char :=
  if w.meetsLetter before && !w.meetsLetter after then 'ς' else 'σ'

/-- The form of a text that stands behind other characters, of which the last one comes first. -/
def lowerBehind (w : CaseTable) (before : Text) : Text → Text
  | [] => []
  | c :: r => (if c = 'Σ' then [w.sigma before r] else w.form c) ++ w.lowerBehind (c :: before) r

def lower (w : CaseTable) (t : Text) : Text :=
  w.lowerBehind [] t

end CaseTable
end ContractAssist
