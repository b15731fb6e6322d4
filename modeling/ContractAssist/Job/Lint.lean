import ContractAssist.Job.Basic
import ContractAssist.Lint.Run
import ContractAssist.Terminal.Renderer

/-!
# Lint — the job of checking a contract

* `Job.lint` runs the linter, and `Job.tell` shows what it found;
* `Lint.Report.exitCode` says whether a contract may be used.
-/

namespace ContractAssist

def Lint.Report.exitCode (r : Lint.Report) : Nat :=
  if r.hasErrors then Job.failed else Job.succeeded

namespace Job

def shownReport (p : Palette) (json : Bool) (r : Lint.Report) : Text :=
  if json then r.toJson ++ "\n" else Renderer.lintReport p r

/-- Tells what linting a file came to: the findings the filter leaves, or why there are none. -/
def tell (p : Palette) (json : Bool) (filter : Lint.Filter) :
    Except LintError Lint.Report → Job Nat
  | .error e => do
    complain (Renderer.error p e.message)
    return refused
  | .ok report => do
    let report := filter.apply report
    print (shownReport p json report)
    return report.exitCode

/--
Checks a contract file. What is logged on the way is dropped: the lines that the program's
subscriber writes to its standard error, from warnings on unless it is told otherwise, are not on
the console.
-/
def lint (settings : Settings) (p : Palette) (file : Text) (json : Bool) (filter : Lint.Filter) :
    Job Nat := do
  let w ← get
  let (result, _, files) := Lint.run w.files w.vars settings.linter file
  set { w with files }
  tell p json filter result

end Job
end ContractAssist
