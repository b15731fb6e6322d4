import ContractAssist.Prompt.LineClass
import ContractAssist.Text.CaseTable

/-!
# Casing — the class of a line by its full lower-case form

* `LineClass.ofForms` applies the rules to a line and a lower-case form of it;
* `CaseTable.classOf` takes the full lower-case form, as a table of Unicode gives it.
-/

namespace ContractAssist

/-- The class of a line, by the line itself and a lower-case form of it. -/
def LineClass.ofForms (line lower : Text) : LineClass :=
  if acceptsPassword line lower then .passwordAccepted
  else if rejectsPassword line lower then
    .passwordRejected
      (if asksForPassword line lower then some (.password (retryContext lower)) else none)
  else if asksForKeypair line lower then .prompt .keypair
  else if asksForPassword line lower then .prompt (.password (passwordContext lower))
  else .plain

def CaseTable.classOf (w : CaseTable) (line : Text) : LineClass :=
  .ofForms line (w.lower line)

end ContractAssist
