import ContractAssist.CommandLine.Parser
import ContractAssist.Job.Deploy
import ContractAssist.Job.Establish
import ContractAssist.Job.Lint

/-!
# Request — from the words of a command line to an exit code

* `Job.usage` answers words that ask for no job;
* `Job.loaded` loads the settings, `Job.prepare` reads all else that a request needs, and
  `Job.carryOut` does what was asked for;
* `World.perform` does all of it and gives the exit code and the world afterwards.
-/

namespace ContractAssist
namespace Job

/-- Answers words that ask for no job. The texts that explain the command line are not shown. -/
def usage : CommandLine.UsageError → Job Nat
  | .displayHelp => return succeeded
  | .displayVersion full => do
    print ((← get).build.summary full)
    return succeeded
  | _ => return refused

def loaded (config : Option Text) : Job Settings := do
  let w ← get
  match Settings.load Settings.ofToml? config w.files.readText? w.environment w.settingsRoot? with
  | .ok (settings, _) => return settings
  | .error e =>
    complain (Renderer.error ⟨false, false⟩ e.message)
    throw failed

/-- What is left to do for a request, with all that was read for it. -/
inductive Task where
  | lint (settings : Settings) (file : Text) (json : Bool) (filter : Lint.Filter)
  | deploy (settings : Settings) (contract : Text) (preset : PresetAnswers)
  | establish (force : Bool)
  deriving DecidableEq, Repr

/-- Reads all that a request needs; no child has been run yet. -/
def prepare (arguments : CommandLine.Arguments) : Job (Palette × Task) := do
  let settings ← loaded arguments.config
  let p : Palette := ⟨settings.display.color && !arguments.noColor, (← get).isColorless⟩
  match arguments.command with
  | .lint file json errorsOnly excludeRules =>
    return (p, .lint settings file json ⟨errorsOnly, excludeRules⟩)
  | .deploy contract rpc timeout yes passwordEnv =>
    match presets (← get).environment yes passwordEnv with
    | .ok preset =>
      let settings := { settings with deploy := settings.deploy.requested rpc timeout }
      return (p, .deploy settings contract preset)
    | .error detail =>
      complain (Renderer.error p detail)
      throw refused
  | .init force => return (p, .establish force)

def Task.perform (p : Palette) : Task → Job Nat
  | lint settings file json filter => Job.lint settings p file json filter
  | deploy settings contract preset => Job.deploy settings p contract preset
  | establish force => Job.establish p force

def carryOut (arguments : CommandLine.Arguments) : Job Nat := do
  let (p, task) ← prepare arguments
  task.perform p

def request (words : List Text) : Job Nat :=
  match CommandLine.parse words with
  | .ok arguments => carryOut arguments
  | .error e => usage e

end Job

/-- Answers the words of a command line: the exit code, and the world afterwards. -/
def World.perform (w : World) (words : List Text) : Nat × World :=
  match (Job.request words).run w with
  | (.ok code, w') => (code, w')
  | (.error code, w') => (code, w')

end ContractAssist
