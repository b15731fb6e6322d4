import ContractAssist.Json.Printer

/-!
# Report — the findings of a linter

* `Finding` is one remark about a contract, `Report` all of them;
* `Report.summary` counts them by severity;
* `Report.humanLines` shows them to people, `Report.toJson` to editors;
* `Filter.apply` leaves out those that nobody asked for.
-/

namespace ContractAssist
namespace Lint

inductive Severity where
  | error
  | warning
  | info
  deriving DecidableEq, Repr, Inhabited

namespace Severity

def name : Severity → Text
  | error => "error"
  | warning => "warning"
  | info => "info"

/-- The severity that the code of a rule tells: `E` begins the codes of errors. -/
def ofCode (code : Text) : Severity :=
  if code.head? = some 'E' then error else warning

/-- The severity that a label names, whatever its case and the blanks around it. -/
def ofLabel? (label : Text) : Option Severity :=
  let word := (Text.trim label).map Char.toLower
  if word = ("error" : Text) then some error
  else if word = ("warning" : Text) ∨ word = ("warn" : Text) then some warning
  else if word = ("info" : Text) ∨ word = ("information" : Text) ∨ word = ("hint" : Text) then
    some info
  else none

end Severity

structure Finding where
  code : Text
  message : Text
  severity : Severity
  -- the line, counted from one; zero if unknown
  line : Nat
  -- the column, counted from one; zero if unknown
  column : Nat
  suggestion : Option Text
  deriving DecidableEq, Repr, Inhabited

/-- A place in a text, counted from zero. -/
structure Position where
  line : Nat
  character : Nat
  deriving DecidableEq, Repr, Inhabited

/-- A stretch of a text; its end does not belong to it. -/
structure Range where
  start : Position
  stop : Position
  deriving DecidableEq, Repr, Inhabited

/-- The stretch that a finding marks: one character. -/
def Finding.range (f : Finding) : Range :=
  ⟨⟨f.line - 1, f.column - 1⟩, ⟨f.line - 1, f.column - 1 + 1⟩⟩

/-- The number of findings, in all and by severity. -/
structure Summary where
  total : Nat
  error : Nat
  warning : Nat
  info : Nat
  deriving DecidableEq, Repr, Inhabited

def Summary.note (s : Summary) : Severity → Summary
  | .error => { s with error := s.error + 1 }
  | .warning => { s with warning := s.warning + 1 }
  | .info => { s with info := s.info + 1 }

structure Report where
  findings : List Finding
  -- how many checks were made, if the linter says so
  checksPassed : Option Nat
  deriving DecidableEq, Repr, Inhabited

namespace Report

def empty : Report := ⟨[], none⟩

def count (r : Report) (s : Severity) : Nat :=
  r.findings.countP fun f => f.severity = s

def summary (r : Report) : Summary :=
  r.findings.foldl (fun s f => s.note f.severity) ⟨r.findings.length, 0, 0, 0⟩

def hasErrors (r : Report) : Bool :=
  r.findings.any fun f => f.severity = .error

def passed (r : Report) : Bool :=
  r.findings.isEmpty

/-! ## For people -/

def humanLine (f : Finding) : Text :=
  "  " ++ (if f.line > 0 then "line " ++ Text.ofNat f.line ++ ": " else []) ++ f.message

def headline (r : Report) : Text :=
  if r.passed then "✓ Lint passed (" ++ Text.ofNat (r.checksPassed.getD 0) ++ " checks)"
  else "✗ Lint failed"

/-- The report in lines: a headline and one line for each finding. -/
def humanLines (r : Report) : List Text :=
  r.headline :: r.findings.map humanLine

/-! ## For editors -/

def member (key : Text) (v : Json.Value) : Text × Json.Value := (key, v)

def positionValue (p : Position) : Json.Value :=
  .object [member "line" (.ofNat p.line), member "character" (.ofNat p.character)]

def diagnostic (f : Finding) : Json.Value :=
  .object ([member "range" (.object [member "start" (positionValue f.range.start),
      member "end" (positionValue f.range.stop)]),
    member "severity" (.string f.severity.name), member "code" (.string f.code),
    member "message" (.string f.message)]
    ++ f.suggestion.elim [] fun s => [member "suggestion" (.string s)])

def summaryValue (s : Summary) : Json.Value :=
  .object [member "total" (.ofNat s.total), member "error" (.ofNat s.error),
    member "warning" (.ofNat s.warning), member "info" (.ofNat s.info)]

def toValue (r : Report) : Json.Value :=
  .object [member "diagnostics" (.array (r.findings.map diagnostic)),
    member "summary" (summaryValue r.summary)]

def toJson (r : Report) : Text :=
  r.toValue.pretty

end Report

/-! ## Filters -/

namespace Report

def errorsOnly (r : Report) : Report :=
  { r with findings := r.findings.filter fun f => f.severity = .error }

def excludeRules (r : Report) (codes : List Text) : Report :=
  if codes.isEmpty then r
  else { r with findings := r.findings.filter fun f => !codes.contains f.code }

end Report

structure Filter where
  errorsOnly : Bool
  excludeRules : List Text
  deriving DecidableEq, Repr, Inhabited

namespace Filter

def keeps (filter : Filter) (f : Finding) : Bool :=
  (!filter.errorsOnly || f.severity = .error) && !filter.excludeRules.contains f.code

def apply (filter : Filter) (r : Report) : Report :=
  (if filter.errorsOnly then r.errorsOnly else r).excludeRules filter.excludeRules

end Filter

end Lint
end ContractAssist
