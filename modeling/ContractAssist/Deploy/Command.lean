import ContractAssist.Invocation
import ContractAssist.Path
import ContractAssist.Settings.Basic

/-!
# Command — how the deployment tool is called

* `Deploy.command` is the command that deploys one contract. It runs in the configured directory, or
  else next to the contract.
-/

namespace ContractAssist
namespace Deploy

def contractArguments (rpc : Option Text) (contract : Text) : List Text :=
  [("deploy" : Text), "--contract", contract] ++ rpc.elim [] fun url => [("--rpc" : Text), url]

def workingDir (settings : DeploySettings) (contract : Text) : Option Text :=
  (settings.workingDir.or (Path.parent? contract)).filter fun dir => !dir.isEmpty

def command (settings : DeploySettings) (contract : Text) : Invocation :=
  ⟨settings.program, settings.arguments ++ contractArguments settings.rpc contract,
    workingDir settings contract, settings.timeout⟩

end Deploy
end ContractAssist
