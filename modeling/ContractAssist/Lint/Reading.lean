import ContractAssist.Lint.Report
import ContractAssist.LogLine

/-!
# Reading — from the output of a linter to a report

Linters write one of two shapes of JSON. In the older one, every result has a severity of its own;
in the newer one, the code of a rule tells the severity, and the number of checks is reported. A
structure may be written as an object or as the array of its fields. The older shape is tried
first, and output that has neither shape counts as no findings.

* `Reading.ofOutput` reads the output;
* `Reading.report` is the report to go on with, `Reading.log` what is said about it.
-/

namespace ContractAssist
namespace Lint

open Json (Value)

/-! ## Structures -/

/-- The value of the one member whose key is among `keys`; `none` if there are several. -/
def lookUp? (members : List (Text × Value)) (keys : List Text) : Option (Option Value) :=
  match members.filter fun m => keys.contains m.1 with
  | [] => some none
  | [m] => some (some m.2)
  | _ => none

/--
The fields of a structure, in order, those that are missing as `none`. An object names its fields,
each by one of its keys; an array lists them from the first one on.
-/
def fields? (keys : List (List Text)) : Value → Option (List (Option Value))
  | .object members => keys.mapM (lookUp? members)
  | .array elements =>
    if elements.length ≤ keys.length then
      some (elements.map some ++ List.replicate (keys.length - elements.length) none)
    else none
  | _ => none

def textField? : Option Value → Option Text
  | none => some []
  | some (.string t) => some t
  | _ => none

/-- A text that may be missing or null. -/
def optionalTextField? : Option Value → Option (Option Text)
  | none => some none
  | some .null => some none
  | some (.string t) => some (some t)
  | _ => none

/-- A number written with digits only, of at most 32 bits. -/
def count? : Value → Option Nat
  | .number n => n.natural?.filter fun k => k < Nat.pow 2 32
  | _ => none

def countField? : Option Value → Option Nat
  | none => some 0
  | some v => count? v

def optionalCountField? : Option Value → Option (Option Nat)
  | none => some none
  | some .null => some none
  | some v => (count? v).map some

def listOf? {α : Type} (element? : Value → Option α) : Value → Option (List α)
  | .array elements => elements.mapM element?
  | _ => none

/-! ## The older shape -/

def resultKeys : List (List Text) :=
  [["rule_id"], ["message"], ["severity"], ["line"], ["column"], ["suggestion"]]

/-- A result with its own severity; without one, the code of the rule tells. -/
def legacyFinding (code message : Text) (label : Option Text) (line column : Nat)
    (suggestion : Option Text) : Finding :=
  ⟨code, message, (label.bind Severity.ofLabel?).getD (Severity.ofCode code), line, column,
    suggestion⟩

def legacyFinding? (v : Value) : Option Finding :=
  match fields? resultKeys v with
  | some [code, message, severity, line, column, suggestion] => do
    return legacyFinding (← textField? code) (← textField? message)
      (← optionalTextField? severity) (← countField? line) (← countField? column)
      (← optionalTextField? suggestion)
  | _ => none

/-- Reads a report of the older shape; its list of results must not be missing. -/
def legacy? (v : Value) : Option Report :=
  match fields? [["results"]] v with
  | some [some results] => (listOf? legacyFinding? results).map fun findings => ⟨findings, none⟩
  | _ => none

/-! ## The newer shape -/

def warningKeys : List (List Text) :=
  [["code"], ["msg"], ["line"], ["column", "col"], ["suggestion"]]

def modernFinding (code message : Text) (line column : Nat) (suggestion : Option Text) : Finding :=
  ⟨code, message, Severity.ofCode code, line, column, suggestion⟩

def modernFinding? (v : Value) : Option Finding :=
  match fields? warningKeys v with
  | some [code, message, line, column, suggestion] => do
    return modernFinding (← textField? code) (← textField? message) (← countField? line)
      (← countField? column) (← optionalTextField? suggestion)
  | _ => none

def modern? (v : Value) : Option Report :=
  match fields? [["passed"], ["warnings"]] v with
  | some [passed, warnings] => do
    let checks ← optionalCountField? passed
    let findings ← warnings.elim (some []) (listOf? modernFinding?)
    return ⟨findings, checks⟩
  | _ => none

/-! ## Outputs -/

inductive Reading where
  | nothing
  | notJson
  | neitherShape
  | recognized (report : Report)
  deriving DecidableEq, Repr, Inhabited

namespace Reading

def ofValue (v : Value) : Reading :=
  -- the newer shape asks for nothing, so a malformed report of the older one may well have it
  match (legacy? v).orElse fun _ => modern? v with
  | some r => recognized r
  | none => neitherShape

def ofOutput (output : Text) : Reading :=
  let trimmed := Text.trim output
  if trimmed.isEmpty then nothing
  else
    match Value.parse? trimmed with
    | some v => ofValue v
    | none => notJson

def report : Reading → Report
  | recognized r => r
  | _ => .empty

/-- What is said about output that is no report, with what is known of the reason. -/
def unrecognized (fields : List (Text × Text)) : LogLine :=
  ⟨.warn, "unrecognized linter output; assuming no findings", fields⟩

def log : Reading → List LogLine
  | nothing => [⟨.warn, "linter produced no output; assuming no findings", []⟩]
  -- where the output ceases to be JSON, the program quotes its JSON reader, whose words are not
  -- modelled: the field "error" is left out
  | notJson => [unrecognized []]
  | neitherShape =>
    [unrecognized [("error", "data did not match any variant of untagged enum RawReport")]]
  | recognized _ => []

end Reading

end Lint
end ContractAssist
