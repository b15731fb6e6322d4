import ContractAssist.Deploy.Run
import ContractAssist.Job.Basic
import ContractAssist.Terminal.Dialog

/-!
# Deploy — the job of deploying a contract

* `DeploySettings.requested` are the settings with what the command line says in their place;
* `Job.presets` are the answers that the command line gives;
* `Job.deploy` runs the deployment tool and answers its questions.
-/

namespace ContractAssist

/-- The settings with what was requested in their place; a timeout is at least a second. -/
def DeploySettings.requested (s : DeploySettings) (rpc : Option Text) (timeout : Option Nat) :
    DeploySettings :=
  { s with
    rpc := rpc.or s.rpc
    timeoutSeconds := (timeout.map fun seconds => max seconds 1).getD s.timeoutSeconds }

namespace Job

/-! ## Answers given beforehand -/

def noPassword (name : Text) : Text :=
  "environment variable `" ++ name ++ "` is not set or empty"

/-- The answers given beforehand; `name` is the variable that holds the password. -/
def presets (env : Environment) (yes : Bool) (name : Option Text) : Except Text PresetAnswers :=
  let keypair := if yes then some true else none
  match name with
  | none => .ok ⟨keypair, none⟩
  | some name =>
    match (env name).filter fun password => !password.isEmpty with
    | some password => .ok ⟨keypair, some password⟩
    | none => .error (noPassword name)

/-! ## Deploying -/

def introduction (p : Palette) (settings : DeploySettings) (contract : Text) : List Text :=
  [Renderer.heading p "deploy", Renderer.field p "contract" contract]
    ++ settings.rpc.toList.map (Renderer.field p "rpc")

def verdict (o : Outcome) : Text :=
  if o.success then "Contract deployed at " ++ o.address?.getD []
  else "Deploy failed: " ++ o.message

def deploy (settings : Settings) (p : Palette) (contract : Text) (preset : PresetAnswers) :
    Job Nat := do
  (introduction p settings.deploy contract).forM complain
  let w ← get
  let announce := fun (c : Console) text => c.complain (Renderer.activity p text)
  match Deploy.run w.files w.vars settings contract (Dialog.attendant p preset) announce
      w.console with
  | .error e =>
    complain (Renderer.error p e.message)
    return refused
  | .ok (outcome, console, files) =>
    requireHearing
    set { w with console, files }
    print (Renderer.outcome p outcome.success (verdict outcome))
    return if outcome.success then succeeded else failed

end Job
end ContractAssist
