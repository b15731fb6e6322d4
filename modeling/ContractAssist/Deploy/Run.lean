import ContractAssist.Deploy.Command
import ContractAssist.Deploy.Preflight
import ContractAssist.Run.Rehearsal

/-!
# Run — deploying a contract

* `Deploy.run` looks at the contract, announces the command and runs it, attended. Only what the
  look finds is an error; everything else is an outcome.
-/

namespace ContractAssist
namespace Deploy

def options (settings : PromptSettings) : RunOptions :=
  ⟨settings.debounce, settings.minPasswordLength⟩

def announcement (i : Invocation) : Text :=
  "running " ++ i.display

def openingLog (p : Preflight) (i : Invocation) : List LogLine :=
  p.warnings.map (fun w => ⟨.warn, w, []⟩) ++ [⟨.info, "deploying", [("command", i.display)]⟩]

def closingLog (o : Outcome) : LogLine :=
  match o.address? with
  | some address =>
    ⟨.info, "deploy succeeded", [("address", "Some(" ++ Quoted.encode address ++ ")")]⟩
  | none => ⟨.warn, "deploy failed " ++ o.message, []⟩

/-- Deploys a contract; `announce` tells the attendant what is done. -/
def run {σ : Type} (files : FileTree) (vars : Variables) (settings : Settings)
    (contract : Text) (a : Attendant σ) (announce : σ → Text → σ) (company : σ) :
    Except DeployError (Outcome × σ × FileTree) := do
  let checked ← Preflight.check files contract
  let invocation := command settings.deploy checked.contract
  let company := (openingLog checked invocation).foldl a.log company
  let company := announce company (announcement invocation)
  let (outcome, company, files) :=
    Rehearsal.perform files vars invocation (options settings.prompts) a company
  return (outcome, a.log company (closingLog outcome), files)

end Deploy
end ContractAssist
