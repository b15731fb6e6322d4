import ContractAssist.Job.Request
import ContractAssist.Proofs.Settings.Load

/-!
# Deploy — what the command line makes of the settings

A request to deploy may name an endpoint and a timeout of its own.  They take the place of the
loaded ones after these were checked, so only what is done to them there keeps them in order: a
timeout is raised to a second, but an endpoint is taken as it is.

1. `requested_rpc_blank_iff` and `one_le_requested_timeout` say what becomes of the two settings;
2. `blank_argument_iff` says when the deployment tool is given a blank endpoint;
3. `request_deploy`: what the deployment job of a request starts from, and when its settings are as
   loaded ones are.
-/

namespace ContractAssist

variable {rpc : Option Text} {timeout : Option Nat} {path : Text}

theorem DeploySettings.one_le_requested_timeout {s : DeploySettings} (h : 1 ≤ s.timeoutSeconds) :
    1 ≤ (s.requested rpc timeout).timeoutSeconds := by
  cases timeout with
  | none => exact h
  | some seconds => exact Nat.le_max_right _ _

/-- Only the command line can make an endpoint blank. -/
theorem DeploySettings.requested_rpc_iff {s : DeploySettings}
    (h : ∀ url ∈ s.rpc, Text.allBlank url = false) :
    (∀ url ∈ (s.requested rpc timeout).rpc, Text.allBlank url = false) ↔
      ∀ url ∈ rpc, Text.allBlank url = false := by
  cases rpc with
  | some url => rfl
  | none =>
    constructor
    · intro _
      nofun
    · intro _
      exact h

/-- The tool is given a blank endpoint just if the settings have one. -/
theorem Deploy.arguments_ne_iff (s : DeploySettings) :
    (∀ path url, Text.allBlank url = true → (Deploy.command s path).arguments ≠
      s.arguments ++ [("deploy" : Text), "--contract", path, "--rpc", url]) ↔
      ∀ url ∈ s.rpc, Text.allBlank url = false := by
  unfold Deploy.command Deploy.contractArguments
  cases s.rpc with
  | none => simp
  | some endpoint =>
    constructor
    · intro h url hurl
      cases hurl
      cases hblank : Text.allBlank endpoint with
      | false => rfl
      | true => exact absurd rfl (h [] endpoint hblank)
    · intro h path url hblank heq
      have hurl : endpoint = url := by simpa using heq
      simp [h url (hurl ▸ rfl)] at hblank

namespace Job

variable {w : World} {words : List Text} {arguments : CommandLine.Arguments} {contract : Text}
variable {yes : Bool} {passwordEnv : Option Text} {settings : Settings} {source : SettingsSource}
variable {preset : PresetAnswers}

def palette (w : World) (settings : Settings) (arguments : CommandLine.Arguments) : Palette :=
  ⟨settings.display.color && !arguments.noColor, w.isColorless⟩

/-- The loaded settings with what the request says in their place. -/
def handed (settings : Settings) (rpc : Option Text) (timeout : Option Nat) : Settings :=
  { settings with deploy := settings.deploy.requested rpc timeout }

theorem bind_run {α β : Type} {x : Job α} {f : α → Job β} {w w' : World} {a : α}
    (h : x.run w = (.ok a, w')) : (x >>= f).run w = (f a).run w' := by
  rw [ExceptT.run_bind]
  simp only [bind, StateT.bind, h]

theorem get_run (w : World) : (get : Job World).run w = (.ok w, w) := rfl

theorem loaded_run {config : Option Text}
    (h : Settings.load Settings.ofToml? config w.files.readText? w.environment w.settingsRoot? =
      .ok (settings, source)) :
    (loaded config).run w = (.ok settings, w) := by
  unfold loaded
  rw [bind_run (get_run w), h]
  rfl

/-- What is read for a request to deploy, whatever becomes of the deployment. -/
theorem prepare_run
    (hcommand : arguments.command = .deploy contract rpc timeout yes passwordEnv)
    (hload : Settings.load Settings.ofToml? arguments.config w.files.readText? w.environment
      w.settingsRoot? = .ok (settings, source))
    (hpresets : presets w.environment yes passwordEnv = .ok preset) :
    (prepare arguments).run w =
      (.ok (palette w settings arguments, .deploy (handed settings rpc timeout) contract preset),
        w) := by
  unfold prepare
  rw [bind_run (loaded_run hload), bind_run (get_run w), hcommand]
  simp only
  rw [bind_run (get_run w), hpresets]
  rfl

theorem request_run {p : Palette} {task : Task} (hwords : CommandLine.parse words = .ok arguments)
    (hprepare : (prepare arguments).run w = (.ok (p, task), w)) :
    (request words).run w = (task.perform p).run w := by
  calc (request words).run w
      = (carryOut arguments).run w := by rw [request, hwords]
    _ = (task.perform p).run w := bind_run hprepare

theorem normal_handed_iff (h : Settings.Normal settings) :
    Settings.Normal (handed settings rpc timeout) ↔ ∀ url ∈ rpc, Text.allBlank url = false := by
  have hrpc : (∀ url ∈ (handed settings rpc timeout).deploy.rpc, Text.allBlank url = false) ↔
      ∀ url ∈ rpc, Text.allBlank url = false := DeploySettings.requested_rpc_iff h.rpc
  rw [← hrpc]
  constructor
  · intro hnormal
    exact hnormal.rpc
  · intro hendpoint
    exact ⟨h.linterTimeout, DeploySettings.one_le_requested_timeout h.deployTimeout, hendpoint⟩

/-- What the deployment job of a request starts from, before any child is run, and that the request
goes on with this job.  Its settings are in order, and the tool is never given a blank endpoint,
just if the command line does not name a blank one. -/
theorem request_deploy
    (hwords : CommandLine.parse words = .ok arguments)
    (hcommand : arguments.command = .deploy contract rpc timeout yes passwordEnv)
    (hload : Settings.load Settings.ofToml? arguments.config w.files.readText? w.environment
      w.settingsRoot? = .ok (settings, source))
    (hpresets : presets w.environment yes passwordEnv = .ok preset) :
    (prepare arguments).run w =
        (.ok (palette w settings arguments, .deploy (handed settings rpc timeout) contract preset),
          w) ∧
      (request words).run w =
        (deploy (handed settings rpc timeout) (palette w settings arguments) contract
          preset).run w ∧
      1 ≤ (handed settings rpc timeout).deploy.timeoutSeconds ∧
      (Settings.Normal (handed settings rpc timeout) ↔ ∀ url ∈ rpc, Text.allBlank url = false) ∧
      ((∀ path url, Text.allBlank url = true →
          (Deploy.command (handed settings rpc timeout).deploy path).arguments ≠
            settings.deploy.arguments ++ [("deploy" : Text), "--contract", path, "--rpc", url]) ↔
        ∀ url ∈ rpc, Text.allBlank url = false) := by
  have hnormal := Settings.normal_of_load hload
  have hprepare := prepare_run hcommand hload hpresets
  refine ⟨hprepare, request_run hwords hprepare, ?_, normal_handed_iff hnormal, ?_⟩
  · exact DeploySettings.one_le_requested_timeout hnormal.deployTimeout
  · exact (Deploy.arguments_ne_iff (handed settings rpc timeout).deploy).trans
      (DeploySettings.requested_rpc_iff hnormal.rpc)

def emptyWorld : World where
  files := ⟨[], []⟩
  vars := []
  account := none
  time := 0
  process := 1
  build := ⟨[], []⟩
  console := default

theorem load_emptyWorld :
    Settings.load Settings.ofToml? none emptyWorld.files.readText? emptyWorld.environment
      emptyWorld.settingsRoot? = .ok (default, .builtInDefaults) :=
  rfl

/-- A timeout of 0 seconds is requested, and the settings stay in order. -/
theorem request_deploy_without_wait :
    (request ["deploy", "--contract", "c.py", "--timeout", "0"]).run emptyWorld =
        (deploy (handed default none (some 0)) ⟨true, false⟩ "c.py" ⟨none, none⟩).run emptyWorld ∧
      Settings.Normal (handed default none (some 0)) := by
  have hwords : CommandLine.parse ["deploy", "--contract", "c.py", "--timeout", "0"] =
      .ok ⟨none, false, 0, .deploy "c.py" none (some 0) false none⟩ := rfl
  have hpresets : presets emptyWorld.environment false none = .ok ⟨none, none⟩ := rfl
  obtain ⟨-, hrun, -, hnormal, -⟩ := request_deploy hwords rfl load_emptyWorld hpresets
  exact ⟨hrun, hnormal.2 nofun⟩

/-- An endpoint of blanks on the command line is handed on. -/
theorem blank_endpoint_handed :
    ¬ ∀ (w : World) (words : List Text) (arguments : CommandLine.Arguments) (contract : Text)
        (rpc : Option Text) (timeout : Option Nat) (yes : Bool) (passwordEnv : Option Text)
        (settings : Settings) (source : SettingsSource),
      CommandLine.parse words = .ok arguments →
      arguments.command = .deploy contract rpc timeout yes passwordEnv →
      Settings.load Settings.ofToml? arguments.config w.files.readText? w.environment
        w.settingsRoot? = .ok (settings, source) →
      1 ≤ (handed settings rpc timeout).deploy.timeoutSeconds ∧
        ∀ url ∈ (handed settings rpc timeout).deploy.rpc, Text.allBlank url = false := by
  intro h
  have hhanded := h emptyWorld ["deploy", "--contract", "c.py", "--rpc", "  "]
    ⟨none, false, 0, .deploy "c.py" (some "  ") none false none⟩ "c.py" (some "  ") none false none
    default .builtInDefaults rfl rfl load_emptyWorld
  have hblank := hhanded.2 "  " rfl
  cases hblank

end Job
end ContractAssist
