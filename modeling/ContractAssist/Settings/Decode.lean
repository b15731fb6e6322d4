import ContractAssist.Error
import ContractAssist.Settings.Basic
import ContractAssist.Toml.Document

/-!
# Decode — from TOML values to settings

Every setting may be left out, and unknown names are ignored. A part of the settings may also be
written as an array of its settings in order.

* `Settings.ofToml?` reads the text of a settings file.
-/

namespace ContractAssist
namespace Settings

open Toml (Value)

/-! ## Single settings -/

def member? (members : List (Text × Value)) (name : Text) : Option Value :=
  (members.find? fun m => m.1 == name).map Prod.snd

/-- The settings of a part, those that are left out as `none`. A date names no setting. -/
def fields? (names : List Text) : Value → Option (List (Option Value))
  | .table members => some (names.map (member? members))
  | .array elements =>
    some (((elements.take names.length).map some)
      ++ List.replicate (names.length - elements.length) none)
  | .dateTime => some (names.map fun _ => none)
  | _ => none

def orDefault {α : Type} (d : α) (read? : Value → Option α) : Option Value → Option α
  | none => some d
  | some v => read? v

def text? : Value → Option Text
  | .string t => some t
  | _ => none

def texts? : Value → Option (List Text)
  | .array elements => elements.mapM text?
  | _ => none

def count? : Value → Option Nat
  | .integer n => if 0 ≤ n then some n.toNat else none
  | _ => none

def switch? : Value → Option Bool
  | .boolean b => some b
  | _ => none

def modeOfName? (name : Text) : Option LinterMode :=
  if name = ("modern" : Text) then some .modern
  else if name = ("legacy" : Text) then some .legacy
  else none

def isVoid : Value → Bool
  | .array [] => true
  | .table [] => true
  | _ => false

/-- The linter's command line: its name, or a table whose one member has that name and is void. -/
def mode? : Value → Option LinterMode
  | .string name => modeOfName? name
  | .table [(name, v)] => if isVoid v then modeOfName? name else none
  | _ => none

/-! ## Parts -/

def linter? (v : Value) : Option LinterSettings :=
  let d : LinterSettings := default
  match fields? ["program", "args", "mode", "timeout_secs"] v with
  | some [program, arguments, mode, timeout] => do
    return ⟨← orDefault d.program text? program, ← orDefault d.arguments texts? arguments,
      ← orDefault d.mode mode? mode, ← orDefault d.timeoutSeconds count? timeout⟩
  | _ => none

def deploy? (v : Value) : Option DeploySettings :=
  let d : DeploySettings := default
  match fields? ["program", "args", "rpc", "cwd", "timeout_secs"] v with
  | some [program, arguments, rpc, workingDir, timeout] => do
    return ⟨← orDefault d.program text? program, ← orDefault d.arguments texts? arguments,
      ← orDefault d.rpc (fun v => (text? v).map some) rpc,
      ← orDefault d.workingDir (fun v => (text? v).map some) workingDir,
      ← orDefault d.timeoutSeconds count? timeout⟩
  | _ => none

def prompts? (v : Value) : Option PromptSettings :=
  let d : PromptSettings := default
  match fields? ["debounce_ms", "min_password_len"] v with
  | some [debounce, minLength] => do
    return ⟨← orDefault d.debounceMillis count? debounce,
      ← orDefault d.minPasswordLength count? minLength⟩
  | _ => none

def display? (v : Value) : Option DisplaySettings :=
  let d : DisplaySettings := default
  match fields? ["color"] v with
  | some [color] => do return ⟨← orDefault d.color switch? color⟩
  | _ => none

/-! ## All settings -/

def ofMembers? (members : List (Text × Value)) : Option Settings := do
  return ⟨← orDefault default linter? (member? members "linter"),
    ← orDefault default deploy? (member? members "deploy"),
    ← orDefault default prompts? (member? members "prompts"),
    ← orDefault default display? (member? members "display")⟩

def notSettings : Text := "not a settings file"

def ofToml? (text : Text) : Except SettingsError Settings :=
  match (Toml.parse? text).bind ofMembers? with
  | some s => .ok s
  | none => .error (.toml notSettings)

end Settings
end ContractAssist
