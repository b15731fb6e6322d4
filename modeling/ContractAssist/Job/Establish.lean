import ContractAssist.Job.Basic
import ContractAssist.Terminal.Renderer

/-!
# Establish — the job of writing the user's settings

* `Job.establish` writes a fresh settings file and says what was done.
-/

namespace ContractAssist
namespace Job

def wrote (p : Palette) (path : Text) : Text :=
  Renderer.activity p ("wrote " ++ path)

def report (p : Palette) : Settings.Established → List Text
  | .created path => [wrote p path]
  | .alreadyThere path =>
    [Renderer.warning p (path ++ " already exists; use --force to overwrite")]
  | .overwritten path backup => [wrote p path, Renderer.field p "backup" backup]

def establish (p : Palette) (force : Bool) : Job Nat := do
  let w ← get
  let (result, storage) :=
    Settings.establishUser w.settingsRoot? force w.time w.process ⟨w.files, []⟩
  set { w with files := storage.tree }
  match result with
  | .ok established =>
    (report p established).forM complain
    return succeeded
  | .error e =>
    complain (Renderer.error p ("failed to initialize config: " ++ e.message))
    return failed

end Job
end ContractAssist
