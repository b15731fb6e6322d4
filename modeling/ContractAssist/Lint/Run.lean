import ContractAssist.Child.Capture
import ContractAssist.Lint.Command
import ContractAssist.Lint.Reading

/-!
# Run — linting a contract

* `Lint.run` runs the linter on a file and reads its report. A linter that finds something may end
  with any code; only a missing file, or a linter that cannot be run, is an error.
-/

namespace ContractAssist
namespace Lint

/-- Lints a file: the report, or why there is none, what is logged, and the files after it. -/
def run (files : FileTree) (vars : Variables) (settings : LinterSettings) (file : Text) :
    Except LintError Report × List LogLine × FileTree :=
  if !files.isFile file then (.error (.missingFile file), [], files)
  else
    match Capture.run files vars (command settings file) with
    | (.error e, log, files') => (.error (.process e), log, files')
    | (.ok captured, log, files') =>
      -- the code that the linter ended with does not count: with findings it is not zero
      let reading := Reading.ofOutput (Utf8.lossy captured.output)
      (.ok reading.report, log ++ reading.log, files')

end Lint
end ContractAssist
