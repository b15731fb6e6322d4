import ContractAssist.Lint.Report
import ContractAssist.Stream.Reader
import ContractAssist.Terminal.Style

/-!
# Renderer — how things are shown

Each function gives the text that is written, line ends included. Without styles, some lines are
simpler.

* messages: `warning`, `error`;
* what is being done: `heading`, `activity`, `field`, `outcome`;
* `lintReport` shows the findings of a linter, `childOutput` what a child wrote.
-/

namespace ContractAssist
namespace Renderer

/-- Stands in front of lines that belong to the line before. -/
def indent : Text := "  "

def bullet (p : Palette) : Text :=
  p.paint ⟨.darkGrey, false⟩ "•"

/-! ## Messages -/

def warning (p : Palette) (message : Text) : Text :=
  p.paint ⟨.yellow, true⟩ "warning:" ++ " " ++ message ++ "\n"

def error (p : Palette) (message : Text) : Text :=
  p.paint ⟨.red, true⟩ "error:" ++ " " ++ message ++ "\n"

/-! ## Activities -/

def heading (p : Palette) (title : Text) : Text :=
  if p.enabled then bullet p ++ " " ++ p.paint ⟨.cyan, true⟩ title ++ "\n" else title ++ ":\n"

def activity (p : Palette) (text : Text) : Text :=
  if p.enabled then bullet p ++ " " ++ p.paint ⟨.darkGrey, true⟩ text ++ "\n" else text ++ "\n"

def field (p : Palette) (key value : Text) : Text :=
  indent ++ p.paint ⟨.darkGrey, false⟩ (key ++ ":") ++ " " ++ p.paint ⟨.white, false⟩ value ++ "\n"

def outcome (p : Palette) (success : Bool) (text : Text) : Text :=
  let glyph := if success then p.paint ⟨.green, true⟩ "✓" else p.paint ⟨.red, true⟩ "✗"
  glyph ++ " " ++ text ++ "\n"

/-! ## Reports -/

def severityColor : Lint.Severity → Color
  | .error => .red
  | .warning => .yellow
  | .info => .white

/-- The lines of a report, the headline bold and each finding in its colour. -/
def lintReport (p : Palette) (r : Lint.Report) : Text :=
  match r.humanLines with
  | [] => []
  | headline :: details =>
    line ⟨if r.passed then .green else .red, true⟩ headline
      ++ (details.zip r.findings).flatMap fun d => line ⟨severityColor d.2.severity, false⟩ d.1
where
  line (style : Style) (t : Text) : Text := p.paint style t ++ "\n"

/-! ## Children -/

/-- What a child wrote; its diagnostics matter less. -/
def childOutput (p : Palette) (chunk : Chunk) : Text :=
  match chunk.stream with
  | .output => chunk.text
  | .diagnostics => p.paint ⟨.darkGrey, false⟩ chunk.text

end Renderer
end ContractAssist
