import Mathlib.Data.List.Forall2
import ContractAssist.Lint.Report

/-!
# Report — what is kept of a report, and what is said about it

A report is filtered in two turns, counted finding by finding, and shown line by line.  Here each of
these is said in terms of the list of findings, so that they can be compared:

1. `foldl_note` and `summary_eq`: the counts are numbers of findings, and `count_add` that every
   finding is counted once;
2. `hasErrors_iff` and `passed_iff` read the verdict in the counts;
3. `Finding.Line` is the line that stands for a finding, and `humanLines_cases` tells apart the two
   ways to show a report;
4. `Filter.Wants` says which findings are wanted, and `apply_eq` that both turns together keep just
   these; hence `apply_apply` and `apply_comm`.
-/

namespace ContractAssist
namespace Lint

/-! ## Counts -/

namespace Report

variable (r : Report)

/-- Findings that are counted add to what was counted before. -/
theorem foldl_note (findings : List Finding) (s : Summary) :
    findings.foldl (fun s f => s.note f.severity) s =
      ⟨s.total, s.error + count ⟨findings, none⟩ .error,
        s.warning + count ⟨findings, none⟩ .warning, s.info + count ⟨findings, none⟩ .info⟩ := by
  induction findings generalizing s with
  | nil => rfl
  | cons f later ih =>
    rw [List.foldl_cons, ih]
    cases hseverity : f.severity <;> simp [Summary.note, count, hseverity] <;> omega

theorem summary_eq :
    r.summary = ⟨r.findings.length, r.count .error, r.count .warning, r.count .info⟩ := by
  have hcounted := foldl_note r.findings ⟨r.findings.length, 0, 0, 0⟩
  simpa [summary, count] using hcounted

theorem count_add : r.count .error + r.count .warning + r.count .info = r.findings.length := by
  unfold count
  induction r.findings with
  | nil => rfl
  | cons f later ih =>
    cases hseverity : f.severity <;> simp [hseverity] <;> omega

theorem hasErrors_iff : r.hasErrors = true ↔ 0 < r.summary.error := by
  rw [summary_eq, count, List.countP_pos_iff, hasErrors, List.any_eq_true]

theorem passed_iff : r.passed = true ↔ r.summary.total = 0 := by
  rw [summary_eq, passed, List.isEmpty_iff]
  exact List.length_eq_zero_iff.symm

end Report

/-! ## Lines -/

inductive Finding.Line (f : Finding) : Text → Prop where
  -- the number of its line comes first
  | placed (h : 0 < f.line) :
      Line f (("  line " : Text) ++ Text.ofNat f.line ++ ": " ++ f.message)
  | unplaced (h : f.line = 0) : Line f (("  " : Text) ++ f.message)

theorem line_humanLine (f : Finding) : f.Line (Report.humanLine f) := by
  unfold Report.humanLine
  by_cases hline : 0 < f.line
  · simpa [hline] using Finding.Line.placed hline
  · have hzero : f.line = 0 := by omega
    simpa [hzero] using Finding.Line.unplaced hzero

namespace Report

def passLine (r : Report) : Text :=
  ("✓ Lint passed (" : Text) ++ Text.ofNat (r.checksPassed.getD 0) ++ " checks)"

def failLine : Text := "✗ Lint failed"

variable (r : Report)

/-- A report has the one line of those that passed, or a headline and a line for each finding. -/
theorem humanLines_cases :
    (r.passed = true ∧ r.findings = [] ∧ r.humanLines = [r.passLine]) ∨
    (r.passed = false ∧ r.findings ≠ [] ∧ ∃ lines, r.humanLines = failLine :: lines ∧
      List.Forall₂ Finding.Line r.findings lines) := by
  cases hpassed : r.passed with
  | true =>
    have hnone : r.findings = [] := List.isEmpty_iff.1 hpassed
    have hheadline : r.headline = r.passLine := if_pos hpassed
    refine .inl ⟨rfl, hnone, ?_⟩
    simp only [humanLines, hheadline, hnone, List.map_nil]
  | false =>
    have hsome : r.findings ≠ [] := by
      rw [ne_eq, ← List.isEmpty_iff]
      exact Bool.eq_false_iff.1 hpassed
    have hheadline : r.headline = failLine := if_neg (by simp [hpassed])
    refine .inr ⟨rfl, hsome, r.findings.map humanLine, ?_, ?_⟩
    · simp only [humanLines, hheadline]
    · rw [List.forall₂_map_right_iff, List.forall₂_same]
      exact fun f _ => line_humanLine f

/-- The headlines differ, and so the one line of a report that passed gives it away. -/
theorem humanLines_eq_passLine_iff : r.humanLines = [r.passLine] ↔ r.passed = true := by
  rcases humanLines_cases r with ⟨hpassed, -, hlines⟩ | ⟨hpassed, -, lines, hlines, -⟩
  · exact ⟨fun _ => hpassed, fun _ => hlines⟩
  · have hheadline : failLine ≠ r.passLine := by
      intro h
      have hfail : failLine.head? = some '✗' := rfl
      have hpass : r.passLine.head? = some '✓' := rfl
      rw [h, hpass] at hfail
      exact absurd hfail (by decide)
    rw [hlines, hpassed]
    refine ⟨fun h => absurd (List.cons.inj h).1 hheadline, fun h => by cases h⟩

end Report

/-! ## Filters -/

namespace Filter

/-- The finding is an error if only errors are wanted, and its rule is not excluded. -/
def Wants (filter : Filter) (f : Finding) : Prop :=
  (filter.errorsOnly = true → f.severity = .error) ∧ f.code ∉ filter.excludeRules

instance (filter : Filter) (f : Finding) : Decidable (filter.Wants f) :=
  inferInstanceAs (Decidable (_ ∧ _))

variable (filter other : Filter) (r : Report)

theorem keeps_eq (f : Finding) : filter.keeps f = decide (filter.Wants f) := by
  cases herrors : filter.errorsOnly <;> simp [keeps, Wants, herrors]

/-- An empty list excludes nothing, so that the report may as well be filtered by it. -/
theorem excludeRules_eq (codes : List Text) : r.excludeRules codes =
    { r with findings := r.findings.filter fun f => !codes.contains f.code } := by
  unfold Report.excludeRules
  split
  · next hnone =>
    have hall : r.findings.filter (fun f => !codes.contains f.code) = r.findings := by
      rw [List.filter_eq_self, List.isEmpty_iff.1 hnone]
      intro f _
      rfl
    rw [hall]
  · rfl

/-- Both turns together keep the findings that are wanted. -/
theorem apply_eq : filter.apply r = { r with findings := r.findings.filter filter.keeps } := by
  rw [apply, excludeRules_eq]
  cases herrors : filter.errorsOnly with
  | false =>
    have hkeeps : filter.keeps = fun f => !filter.excludeRules.contains f.code := by
      funext f
      simp only [keeps, herrors, Bool.not_false, Bool.true_or, Bool.true_and]
    rw [hkeeps]
    rfl
  | true =>
    have hkeeps : filter.keeps =
        fun f => !filter.excludeRules.contains f.code && decide (f.severity = .error) := by
      funext f
      simp only [keeps, herrors, Bool.not_true, Bool.false_or, Bool.and_comm]
    rw [hkeeps, ← List.filter_filter]
    rfl

theorem apply_findings :
    (filter.apply r).findings = r.findings.filter fun f => decide (filter.Wants f) := by
  rw [apply_eq]
  exact List.filter_congr fun f _ => filter.keeps_eq f

theorem apply_checksPassed : (filter.apply r).checksPassed = r.checksPassed := by
  rw [apply_eq]

/-- What was kept is kept again. -/
theorem apply_apply : filter.apply (filter.apply r) = filter.apply r := by
  simp only [apply_eq, List.filter_filter, Bool.and_self]

/-- It does not matter which of two filters comes first. -/
theorem apply_comm : other.apply (filter.apply r) = filter.apply (other.apply r) := by
  simp only [apply_eq, List.filter_filter, Bool.and_comm]

end Filter
end Lint
end ContractAssist
