import ContractAssist.Invocation
import ContractAssist.Settings.Basic

/-!
# Command — how the linter is called

* `Lint.command` is the command that checks one file.
-/

namespace ContractAssist
namespace Lint

def fileArguments (mode : LinterMode) (file : Text) : List Text :=
  match mode with
  | .modern => ["lint", file, "--json"]
  | .legacy => [file, "--format", "json"]

def command (settings : LinterSettings) (file : Text) : Invocation :=
  ⟨settings.program, settings.arguments ++ fileArguments settings.mode file, none,
    settings.timeout⟩

end Lint
end ContractAssist
