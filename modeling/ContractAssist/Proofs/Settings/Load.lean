import ContractAssist.Proofs.Settings.Source
import ContractAssist.Proofs.Text.Basic

/-!
# Load — which settings are loaded, and when loading fails

The text that counts is parsed, the environment takes the place of single settings, and what comes
of it is checked.  Each variable that is set takes the place of one setting; the last step brings a
time of 0 up to a second and drops an endpoint of blanks only.

1. `envValue?_eq_some_iff` says when a variable is set, and that its value is then not blank;
2. `withEnvironment` are the settings of a file with the values of the environment in place of its
   own, and `override_eq_ok_iff` says that a time that is no number is all that stands against them;
3. `Allowed` names what is demanded of a file together with the environment, `Applied` what becomes
   of it: one condition, and one equation, for each setting;
4. `Normal` are the invariants that loaded settings have;
5. `load_outcome`: what is loaded, when loading fails, and that what is loaded is normal.
-/

namespace ContractAssist
namespace Settings

variable {env : Environment} {name value url : Text} {file named s : Settings}

/-! ## The environment -/

theorem envValue?_eq_some_iff :
    envValue? env name = some value ↔
      ∃ raw, env name = some raw ∧ value = Text.trim raw ∧ value ≠ [] := by
  have hraw (raw : Text) : nonBlank? raw = some value ↔ value = Text.trim raw ∧ value ≠ [] := by
    unfold nonBlank?
    split
    · rename_i hempty
      have hnil := List.isEmpty_iff.1 hempty
      constructor
      · nofun
      · rintro ⟨rfl, hne⟩
        exact absurd hnil hne
    · rename_i hfull
      constructor
      · intro h
        cases h
        exact ⟨rfl, fun hnil => hfull (List.isEmpty_iff.2 hnil)⟩
      · rintro ⟨rfl, -⟩
        rfl
  unfold envValue?
  simp only [Option.bind_eq_some_iff, hraw]

theorem not_allBlank_of_envValue? (h : envValue? env name = some value) :
    Text.allBlank value = false := by
  obtain ⟨raw, -, rfl, hne⟩ := envValue?_eq_some_iff.1 h
  cases htrim : Text.trim raw with
  | nil => exact absurd htrim hne
  | cons c rest =>
    -- the first character that is left is no blank
    have hhead := (Text.trimmed_trim raw).head c (by rw [htrim]; rfl)
    simp [Text.allBlank, hhead]

def withEnvironment (env : Environment) (file : Settings) : Settings :=
  { file with
    linter :=
      { file.linter with program := (envValue? env linterVariable).getD file.linter.program }
    deploy :=
      { file.deploy with
        program := (envValue? env deployerVariable).getD file.deploy.program
        rpc := (envValue? env rpcVariable).or file.deploy.rpc
        timeoutSeconds :=
          (((envValue? env timeoutVariable).bind Text.natural64?).map fun n => max n 1).getD
            file.deploy.timeoutSeconds } }

def Timed (env : Environment) : Prop :=
  ∀ value, envValue? env timeoutVariable = some value → (Text.natural64? value).isSome = true

theorem override_eq_ok_iff :
    override env file = .ok named ↔ Timed env ∧ named = withEnvironment env file := by
  unfold override overrideDeploy Timed withEnvironment
  cases htime : envValue? env timeoutVariable with
  | none =>
    constructor
    · intro h
      exact ⟨nofun, (Except.ok.inj h).symm⟩
    · rintro ⟨-, rfl⟩
      rfl
  | some value =>
    cases hnumber : Text.natural64? value with
    | none =>
      simp only [hnumber]
      constructor
      · nofun
      · rintro ⟨htimed, -⟩
        exact absurd (htimed value rfl) (by simp [hnumber])
    | some n =>
      simp only [hnumber]
      constructor
      · intro h
        refine ⟨?_, ?_⟩
        · rintro value' hvalue
          cases hvalue
          simp [hnumber]
        · simpa [hnumber] using (Except.ok.inj h).symm
      · rintro ⟨-, rfl⟩
        exact congrArg Except.ok (by simp [hnumber])

/-! ## Checks -/

theorem objection?_eq_none_iff :
    objection? s = none ↔
      Text.allBlank s.linter.program = false ∧ Text.allBlank s.deploy.program = false ∧
        s.prompts.debounceMillis ≤ debounceLimit ∧ s.prompts.minPasswordLength ≠ 0 := by
  unfold objection?
  split
  · rename_i hlinter
    simp [hlinter]
  rename_i hlinter
  split
  · rename_i hdeploy
    simp [hdeploy]
  rename_i hdeploy
  split
  · rename_i hdebounce
    simp [Nat.not_le.2 hdebounce]
  rename_i hdebounce
  split
  · rename_i hlength
    simp [hlength]
  · rename_i hlength
    simp [hlinter, hdeploy, Nat.not_lt.1 hdebounce, hlength]

theorem check_eq_ok_iff : check named = .ok s ↔ objection? named = none ∧ s = normalize named := by
  unfold check
  cases objection? named with
  | none => simp [eq_comm]
  | some detail => simp

structure Allowed (env : Environment) (file : Settings) : Prop where
  timeout : Timed env
  linterProgram :
    Text.allBlank ((envValue? env linterVariable).getD file.linter.program) = false
  deployProgram :
    Text.allBlank ((envValue? env deployerVariable).getD file.deploy.program) = false
  debounce : file.prompts.debounceMillis ≤ 5000
  minPasswordLength : file.prompts.minPasswordLength ≠ 0

/-- What becomes of the settings of a file in the environment. -/
structure Applied (env : Environment) (file s : Settings) : Prop where
  linterProgram : s.linter.program = (envValue? env linterVariable).getD file.linter.program
  linterArguments : s.linter.arguments = file.linter.arguments
  linterMode : s.linter.mode = file.linter.mode
  linterTimeout : s.linter.timeoutSeconds = max file.linter.timeoutSeconds 1
  deployProgram : s.deploy.program = (envValue? env deployerVariable).getD file.deploy.program
  deployArguments : s.deploy.arguments = file.deploy.arguments
  rpc : s.deploy.rpc =
    (envValue? env rpcVariable).or (file.deploy.rpc.filter fun url => !Text.allBlank url)
  workingDir : s.deploy.workingDir = file.deploy.workingDir
  deployTimeout : s.deploy.timeoutSeconds =
    max (((envValue? env timeoutVariable).bind Text.natural64?).getD file.deploy.timeoutSeconds) 1
  prompts : s.prompts = file.prompts
  display : s.display = file.display

theorem rpc_normalize :
    ((envValue? env rpcVariable).or file.deploy.rpc).filter (fun url => !Text.allBlank url) =
      (envValue? env rpcVariable).or (file.deploy.rpc.filter fun url => !Text.allBlank url) := by
  cases hrpc : envValue? env rpcVariable with
  | none => rfl
  | some url =>
    -- a variable that is set is not blank, so nothing is dropped
    simp [Option.filter, not_allBlank_of_envValue? hrpc]

theorem timeout_normalize (time : Option Nat) (seconds : Nat) :
    max ((time.map fun n => max n 1).getD seconds) 1 = max (time.getD seconds) 1 := by
  cases time with
  | none => rfl
  | some n => simp

theorem applied_iff : Applied env file s ↔ s = normalize (withEnvironment env file) := by
  constructor
  · intro h
    obtain ⟨⟨program, arguments, mode, timeout⟩, ⟨program', arguments', rpc, dir, timeout'⟩,
      prompts, display⟩ := s
    obtain ⟨rfl, rfl, rfl, rfl, rfl, rfl, rfl, rfl, rfl, rfl, rfl⟩ := h
    simp only [normalize, withEnvironment, rpc_normalize, timeout_normalize]
  · rintro rfl
    exact ⟨rfl, rfl, rfl, rfl, rfl, rfl, rpc_normalize, rfl, timeout_normalize _ _, rfl, rfl⟩

theorem allowed_iff :
    Allowed env file ↔ Timed env ∧ objection? (withEnvironment env file) = none := by
  rw [objection?_eq_none_iff]
  constructor
  · rintro ⟨htimed, hlinter, hdeploy, hdebounce, hlength⟩
    exact ⟨htimed, hlinter, hdeploy, hdebounce, hlength⟩
  · rintro ⟨htimed, hlinter, hdeploy, hdebounce, hlength⟩
    exact ⟨htimed, hlinter, hdeploy, hdebounce, hlength⟩

/-! ## Loading -/

variable {parse : Text → Except SettingsError Settings} {explicit root : Option Text}
variable {read : FileReader} {source : SettingsSource}

theorem load_eq_ok_iff_applied :
    load parse explicit read env root = .ok (s, source) ↔
      ∃ text file, Supplies read root explicit text source ∧ parse text = .ok file ∧
        Allowed env file ∧ Applied env file s := by
  rw [load_eq_ok_iff]
  -- what the environment makes of the file is a function of both, so it need not be named
  refine exists_congr fun text => exists_congr fun file => ?_
  simp only [override_eq_ok_iff, check_eq_ok_iff, allowed_iff, applied_iff]
  constructor
  · rintro ⟨named, hsupplies, hparse, ⟨htimed, rfl⟩, hallowed, rfl⟩
    exact ⟨hsupplies, hparse, ⟨htimed, hallowed⟩, rfl⟩
  · rintro ⟨hsupplies, hparse, ⟨htimed, hallowed⟩, rfl⟩
    exact ⟨_, hsupplies, hparse, ⟨htimed, rfl⟩, hallowed, rfl⟩

/-- The text that counts and its source are unique. -/
theorem Supplies.unique {text text' : Text} {source' : SettingsSource}
    (h : Supplies read root explicit text source) (h' : Supplies read root explicit text' source') :
    text = text' ∧ source = source' := by
  have hsame := h.choose_eq.symm.trans h'.choose_eq
  cases hsame
  exact ⟨rfl, rfl⟩

theorem supplies_or_unreadable (explicit : Option Text) (read : FileReader) (root : Option Text) :
    (∃ text source, Supplies read root explicit text source) ∨
      ∃ path, explicit = some path ∧ ¬ Readable read path := by
  cases hchoose : choose explicit read root with
  | ok found => exact .inl ⟨_, _, choose_eq_ok_iff.1 hchoose⟩
  | error e =>
    obtain ⟨path, cause, hpath, hread, -⟩ := choose_eq_error_iff.1 hchoose
    exact .inr ⟨path, hpath, not_readable_iff.2 ⟨cause, hread⟩⟩

theorem load_fails_iff :
    (∃ e, load parse explicit read env root = .error e) ↔
      (∃ path, explicit = some path ∧ ¬ Readable read path) ∨
        ∃ text source, Supplies read root explicit text source ∧
          ((∃ e, parse text = .error e) ∨ ∃ file, parse text = .ok file ∧ ¬ Allowed env file) := by
  constructor
  · rintro ⟨e, h⟩
    rcases supplies_or_unreadable explicit read root with ⟨text, source, hsupplies⟩ | hunread
    · refine .inr ⟨text, source, hsupplies, ?_⟩
      cases hparse : parse text with
      | error e => exact .inl ⟨e, rfl⟩
      | ok file =>
        refine .inr ⟨file, rfl, ?_⟩
        intro hallowed
        -- nothing would stand against the settings then
        have hload := load_eq_ok_iff_applied.2
          ⟨text, file, hsupplies, hparse, hallowed, applied_iff.2 rfl⟩
        rw [h] at hload
        cases hload
    · exact .inl hunread
  · intro hcause
    cases hload : load parse explicit read env root with
    | error e => exact ⟨e, rfl⟩
    | ok loaded =>
      obtain ⟨s, source⟩ := loaded
      obtain ⟨text, file, hsupplies, hparse, hallowed, -⟩ := load_eq_ok_iff_applied.1 hload
      rcases hcause with ⟨path, rfl, hunread⟩ | ⟨text', source', hsupplies', hcause⟩
      · cases hsupplies with
        | named hread => exact absurd ⟨text, hread⟩ hunread
      · obtain ⟨rfl, -⟩ := hsupplies.unique hsupplies'
        rcases hcause with ⟨e, hfail⟩ | ⟨file', hparse', hnot⟩
        · rw [hfail] at hparse
          cases hparse
        · rw [hparse'] at hparse
          cases hparse
          exact absurd hallowed hnot

/-- The invariants of settings that are loaded. -/
structure Normal (s : Settings) : Prop where
  linterTimeout : 1 ≤ s.linter.timeoutSeconds
  deployTimeout : 1 ≤ s.deploy.timeoutSeconds
  rpc : ∀ url ∈ s.deploy.rpc, Text.allBlank url = false

theorem Applied.normal (h : Applied env file s) : Normal s where
  linterTimeout := by
    rw [h.linterTimeout]
    exact Nat.le_max_right _ _
  deployTimeout := by
    rw [h.deployTimeout]
    exact Nat.le_max_right _ _
  rpc := by
    intro url hurl
    rw [Option.mem_def, h.rpc, ← rpc_normalize, Option.filter_eq_some_iff] at hurl
    simpa using hurl.2

theorem normal_of_load (h : load parse explicit read env root = .ok (s, source)) : Normal s := by
  obtain ⟨text, file, -, -, -, happlied⟩ := load_eq_ok_iff_applied.1 h
  exact happlied.normal

/-- What is loaded, when loading fails, and what holds of all settings that are loaded. -/
theorem load_outcome (parse : Text → Except SettingsError Settings) (explicit : Option Text)
    (read : FileReader) (env : Environment) (root : Option Text) :
    (∀ s source, load parse explicit read env root = .ok (s, source) ↔
      ∃ text file, Supplies read root explicit text source ∧ parse text = .ok file ∧
        Allowed env file ∧ Applied env file s) ∧
    ((∃ e, load parse explicit read env root = .error e) ↔
      (∃ path, explicit = some path ∧ ¬ Readable read path) ∨
        ∃ text source, Supplies read root explicit text source ∧
          ((∃ e, parse text = .error e) ∨ ∃ file, parse text = .ok file ∧ ¬ Allowed env file)) ∧
    ∀ s source, load parse explicit read env root = .ok (s, source) → Normal s := by
  refine ⟨?_, load_fails_iff, ?_⟩
  · intro s source
    exact load_eq_ok_iff_applied
  · intro s source h
    exact normal_of_load h

end Settings
end ContractAssist
