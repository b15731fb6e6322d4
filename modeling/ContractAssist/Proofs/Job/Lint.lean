import ContractAssist.Job.Lint
import ContractAssist.Proofs.Job.Deploy
import ContractAssist.Proofs.Lint.Report

/-!
# Lint — one verdict, however it is told

A report is counted, shown in lines and turned into an exit code, each time by another walk over its
findings.  All of them say the same of the same findings: those that are left by the filter.

1. `Told` says how lines are printed, and `told_lintReport` that a report is printed by its lines;
2. `Report.Agrees` is a field for each view of a report, and `Report.agrees` that they agree;
3. `tell_ends`: whatever linting came to, the filtered report is printed and its exit code is the
   job's, and `lint_ends` is the case of what the linter gave;
4. `verdict_of_lint` puts this together with what a filter leaves.
-/

namespace ContractAssist
namespace Lint

/-! ## Printed lines -/

/-- Lines are printed one after the other, each in some style. -/
inductive Told (p : Palette) : List Text → Text → Prop where
  | none : Told p [] []
  -- one line more is printed in front
  | line {l lines t} (style : Style) (h : Told p lines t) :
      Told p (l :: lines) (p.paint style l ++ "\n" ++ t)

/-- Without styles, just the lines are printed. -/
theorem Told.plain {p : Palette} {lines : List Text} {t : Text} (h : Told p lines t)
    (hplain : p.enabled = false) : t = lines.flatMap fun l => l ++ ("\n" : Text) := by
  induction h with
  | none => rfl
  | @line l lines t style _ ih =>
    have hpaint : p.paint style l = l := if_pos (by simp [hplain])
    rw [List.flatMap_cons, ← ih, hpaint]

/-- Each finding colours its own line. -/
theorem told_details (p : Palette) (findings : List Finding) :
    Told p (findings.map Report.humanLine)
      (((findings.map Report.humanLine).zip findings).flatMap fun d =>
        Renderer.lintReport.line p ⟨Renderer.severityColor d.2.severity, false⟩ d.1) := by
  induction findings with
  | nil => exact .none
  | cons f later ih => exact .line _ ih

theorem told_lintReport (p : Palette) (r : Report) :
    Told p r.humanLines (Renderer.lintReport p r) :=
  .line _ (told_details p r.findings)

/-! ## Views of a report -/

namespace Report

variable (r : Report)

theorem exitCode_eq_one_iff : r.exitCode = 1 ↔ 0 < r.summary.error := by
  rw [← hasErrors_iff, exitCode]
  cases r.hasErrors <;> decide

theorem exitCode_eq_zero_iff : r.exitCode = 0 ↔ r.summary.error = 0 := by
  have hone := r.exitCode_eq_one_iff
  have hverdict : r.exitCode = 0 ∨ r.exitCode = 1 := by
    rw [exitCode]
    cases r.hasErrors <;> decide
  omega

/-- All that is told of a report follows from its findings, and is one verdict. -/
structure Agrees : Prop where
  counts : r.summary =
    ⟨r.findings.length, r.count .error, r.count .warning, r.count .info⟩
  -- every finding is counted once
  total : r.summary.total = r.summary.error + r.summary.warning + r.summary.info
  -- there are errors just if some are counted
  hasErrors : r.hasErrors = true ↔ 0 < r.summary.error
  failed : r.exitCode = 1 ↔ 0 < r.summary.error
  succeeded : r.exitCode = 0 ↔ r.summary.error = 0
  -- a report passed just if nothing is counted
  passed : r.passed = true ↔ r.summary.total = 0
  -- the one line of a report that passed is shown of no other
  passLine : r.humanLines = [r.passLine] ↔ r.passed = true
  -- of any other report, there is a line for each finding after the headline
  lines : r.passed = false → ∃ lines, r.humanLines = failLine :: lines ∧
    List.Forall₂ Finding.Line r.findings lines
  -- these lines are printed, whatever the colours
  told : ∀ p, Told p r.humanLines (Renderer.lintReport p r)
  -- nothing else is printed where there are no colours
  plain : ∀ p : Palette, p.enabled = false →
    Renderer.lintReport p r = r.humanLines.flatMap fun l => l ++ ("\n" : Text)

theorem agrees : r.Agrees where
  counts := r.summary_eq
  total := by
    rw [summary_eq]
    exact r.count_add.symm
  hasErrors := r.hasErrors_iff
  failed := r.exitCode_eq_one_iff
  succeeded := r.exitCode_eq_zero_iff
  passed := r.passed_iff
  passLine := r.humanLines_eq_passLine_iff
  lines := by
    intro hfailed
    rcases r.humanLines_cases with ⟨hpassed, -, -⟩ | ⟨-, -, hlines⟩
    · exact absurd (hfailed.symm.trans hpassed) Bool.false_ne_true
    · exact hlines
  told p := told_lintReport p r
  plain p hplain := (told_lintReport p r).plain hplain

end Report

/-- Where only errors are wanted, whatever is left is an error. -/
theorem Filter.exitCode_errorsOnly (codes : List Text) (r : Report) :
    ((⟨true, codes⟩ : Filter).apply r).exitCode = 0 ↔
      ((⟨true, codes⟩ : Filter).apply r).passed = true := by
  have herror : ∀ f ∈ ((⟨true, codes⟩ : Filter).apply r).findings, f.severity = .error := by
    intro f hf
    rw [apply_findings, List.mem_filter] at hf
    exact (of_decide_eq_true hf.2).1 rfl
  generalize (⟨true, codes⟩ : Filter).apply r = kept at herror ⊢
  have hall : kept.count .error = kept.findings.length := by
    rw [Report.count, List.countP_eq_length]
    exact fun f hf => decide_eq_true (herror f hf)
  rw [Report.exitCode_eq_zero_iff, Report.passed_iff, Report.summary_eq, hall]

end Lint

/-! ## The job -/

namespace Job

/-- How a job of checking ends: with the verdict on the report that it printed, or without any. -/
inductive LintEnds (p : Palette) (json : Bool) (filter : Lint.Filter) (w : World) :
    Except LintError Lint.Report → Except Nat Nat × World → Prop where
  -- the report that is left by the filter is printed, and its exit code is the job's
  | told {w'} (report : Lint.Report)
      (h : w'.console = w.console.print (shownReport p json (filter.apply report))) :
      LintEnds p json filter w (.ok report) (.ok (filter.apply report).exitCode, w')
  -- there is no report; nothing is printed, and the error is complained of
  | refused {w'} (e : LintError)
      (h : w'.console = w.console.complain (Renderer.error p e.message)) :
      LintEnds p json filter w (.error e) (.ok 2, w')
  -- there is no report, and nobody hears of it
  | unheard {w'} (e : LintError) (h : w'.console = w.console) :
      LintEnds p json filter w (.error e) (.error 101, w')

theorem LintEnds.of_console {p : Palette} {json : Bool} {filter : Lint.Filter} {w w₁ : World}
    {result : Except LintError Lint.Report} {ending : Except Nat Nat × World}
    (h : LintEnds p json filter w₁ result ending) (hw : w₁.console = w.console) :
    LintEnds p json filter w result ending := by
  cases h with
  | told report h => exact .told report (hw ▸ h)
  | refused e h => exact .refused e (hw ▸ h)
  | unheard e h => exact .unheard e (hw ▸ h)

variable (settings : Settings) (p : Palette) (file : Text) (json : Bool) (filter : Lint.Filter)
variable (w : World)

/-- Nothing goes on after a job that ended early. -/
theorem bind_run_error {α β : Type} {x : Job α} {f : α → Job β} {w w' : World} {code : Nat}
    (h : x.run w = (.error code, w')) : (x >>= f).run w = (.error code, w') := by
  rw [ExceptT.run_bind]
  simp only [bind, StateT.bind, h]
  rfl

theorem requireHearing_run : requireHearing.run w =
    (if w.console.hears then .ok () else .error unheard, w) := by
  unfold requireHearing
  rw [bind_run (get_run w)]
  cases w.console.hears <;> rfl

theorem complain_run (t : Text) : (complain t).run w =
    if w.console.hears then (.ok (), { w with console := w.console.complain t })
    else (.error unheard, w) := by
  unfold complain
  have hhearing := requireHearing_run w
  cases hhears : w.console.hears with
  | true =>
    rw [hhears] at hhearing
    rw [bind_run hhearing]
    rfl
  | false =>
    rw [hhears] at hhearing
    rw [bind_run_error hhearing]
    rfl

/-- Whatever linting came to, this is how it is told. -/
theorem tell_ends (result : Except LintError Lint.Report) :
    LintEnds p json filter w result ((tell p json filter result).run w) := by
  cases result with
  | ok report => exact .told report rfl
  | error e =>
    have hcomplain := complain_run w (Renderer.error p e.message)
    unfold tell
    cases hhears : w.console.hears with
    | true =>
      rw [hhears] at hcomplain
      rw [bind_run hcomplain]
      exact .refused e rfl
    | false =>
      rw [hhears] at hcomplain
      rw [bind_run_error hcomplain]
      exact .unheard e rfl

theorem lint_run : (lint settings p file json filter).run w =
    (tell p json filter (Lint.run w.files w.vars settings.linter file).1).run
      { w with files := (Lint.run w.files w.vars settings.linter file).2.2 } :=
  rfl

/-- What a child does to the files makes no difference to what is told. -/
theorem lint_ends : LintEnds p json filter w (Lint.run w.files w.vars settings.linter file).1
    ((lint settings p file json filter).run w) := by
  have hends := tell_ends p json filter
    { w with files := (Lint.run w.files w.vars settings.linter file).2.2 }
    (Lint.run w.files w.vars settings.linter file).1
  rw [lint_run]
  exact hends.of_console rfl

/--
A filter leaves the findings that are wanted, once for all and whatever other filters there are.  Of
what it leaves, every view is the same verdict.  Whatever a linter gave is told with this verdict,
and so the job of checking ends with it.
-/
theorem verdict_of_lint :
    (∀ (filter : Lint.Filter) (r : Lint.Report),
      (filter.apply r).findings = r.findings.filter (fun f => decide (filter.Wants f)) ∧
      (filter.apply r).checksPassed = r.checksPassed ∧
      filter.apply (filter.apply r) = filter.apply r ∧
      (∀ other : Lint.Filter, other.apply (filter.apply r) = filter.apply (other.apply r)) ∧
      (filter.apply r).Agrees) ∧
    (∀ (codes : List Text) (r : Lint.Report),
      ((⟨true, codes⟩ : Lint.Filter).apply r).exitCode = 0 ↔
        ((⟨true, codes⟩ : Lint.Filter).apply r).passed = true) ∧
    (∀ (p : Palette) (json : Bool) (filter : Lint.Filter) (w : World)
      (result : Except LintError Lint.Report),
      LintEnds p json filter w result ((tell p json filter result).run w)) ∧
    ∀ (settings : Settings) (p : Palette) (file : Text) (json : Bool) (filter : Lint.Filter)
      (w : World), LintEnds p json filter w (Lint.run w.files w.vars settings.linter file).1
        ((lint settings p file json filter).run w) := by
  refine ⟨fun filter r => ?_, Lint.Filter.exitCode_errorsOnly, tell_ends, lint_ends⟩
  exact ⟨filter.apply_findings r, filter.apply_checksPassed r, filter.apply_apply r,
    fun other => filter.apply_comm other r, (filter.apply r).agrees⟩

end Job

end ContractAssist
