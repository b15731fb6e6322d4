import ContractAssist.Proofs.Lint.Field
import ContractAssist.Proofs.Text.Occurrence

/-!
# Format — the two shapes of a report, and how they are read back

What a linter means is one thing, the text that it writes another: members stand in any order,
defaults may be left out, and characters may be escaped.  Reading undoes all of this.

1. `NewerReport` and `OlderReport` are what the two shapes mean, and their `Members` how they are
   written as objects;
2. `CodeTells` and `LabelTells` say which severity a code and a label tell;
3. `Output` are the texts of a value, with blanks around it;
4. `report_of_output`: of every text of a report comes one finding for each entry.
-/

namespace ContractAssist
namespace Lint

open Json (Value)

/-! ## Severities -/

inductive CodeTells : Text → Severity → Prop where
  | error (rest : Text) : CodeTells ('E' :: rest) .error
  -- all other codes are those of warnings
  | warning {code} (h : ∀ rest, code ≠ 'E' :: rest) : CodeTells code .warning

def Severity.labels : Severity → List Text
  | error => ["error".toList]
  | warning => ["warning".toList, "warn".toList]
  | info => ["info".toList, "information".toList, "hint".toList]

/-- The severity that a label tells, whatever its case and the blanks around it. -/
inductive LabelTells : Text → Severity → Prop where
  | label {front word back severity} (hfront : Text.allBlank front = true)
      (hback : Text.allBlank back = true) (hword : word.map Char.toLower ∈ severity.labels) :
      LabelTells (front ++ word ++ back) severity

theorem codeTells_ofCode (code : Text) : CodeTells code (Severity.ofCode code) := by
  cases code with
  | nil => exact .warning (by simp)
  | cons c rest =>
    by_cases hc : c = 'E'
    · subst hc
      exact .error rest
    · have hcode : Severity.ofCode (c :: rest) = .warning := by simp [Severity.ofCode, hc]
      rw [hcode]
      refine .warning ?_
      intro rest' h
      exact hc (List.cons.inj h).1

/-- A blank has no other form in lower case, so it would be seen there. -/
theorem not_blank_of_toLower {c : Char} (h : isBlank c.toLower = false) : isBlank c = false := by
  cases hblank : isBlank c with
  | false => rfl
  | true =>
    rw [Text.toLower_of_isBlank hblank] at h
    exact hblank.symm.trans h

/-- No label has a blank at either end. -/
theorem trimmed_of_mem_labels {word : Text} {severity : Severity}
    (h : word.map Char.toLower ∈ severity.labels) : Text.Trimmed word := by
  have hends : ∀ label ∈ severity.labels, (∀ c, label.head? = some c → isBlank c = false) ∧
      ∀ c, label.getLast? = some c → isBlank c = false := by
    cases severity <;> simp [Severity.labels] <;> decide
  obtain ⟨hhead, hlast⟩ := hends _ h
  refine ⟨?_, ?_⟩
  · intro c hc
    exact not_blank_of_toLower (hhead c.toLower (by simp [hc]))
  · intro c hc
    exact not_blank_of_toLower (hlast c.toLower (by simp [hc]))

theorem ofLabel?_eq_some_iff_mem {label : Text} {severity : Severity} :
    Severity.ofLabel? label = some severity ↔
      (Text.trim label).map Char.toLower ∈ severity.labels := by
  generalize hword : (Text.trim label).map Char.toLower = word
  constructor
  · intro h
    simp only [Severity.ofLabel?, hword] at h
    split at h
    · cases h
      simp_all [Severity.labels]
    · split at h
      · cases h
        simp_all [Severity.labels]
      · split at h
        · cases h
          simp_all [Severity.labels]
        · cases h
  · intro h
    cases severity with
    | error =>
      obtain rfl : word = _ := by simpa [Severity.labels] using h
      simp [Severity.ofLabel?, hword]
    | warning =>
      have hcases : word = "warning".toList ∨ word = "warn".toList := by
        simpa [Severity.labels] using h
      rcases hcases with rfl | rfl <;> simp [Severity.ofLabel?, hword]
    | info =>
      have hcases : word = "info".toList ∨ word = "information".toList ∨ word = "hint".toList := by
        simpa [Severity.labels] using h
      rcases hcases with rfl | rfl | rfl <;> simp [Severity.ofLabel?, hword]

theorem ofLabel?_eq_some_iff {label : Text} {severity : Severity} :
    Severity.ofLabel? label = some severity ↔ LabelTells label severity := by
  constructor
  · intro h
    obtain ⟨front, back, hfront, hback, happ⟩ := Text.exists_trim label
    rw [← happ]
    exact .label hfront hback (ofLabel?_eq_some_iff_mem.1 h)
  · intro h
    cases h with
    | label hfront hback hword =>
      have htrim := Text.trim_padded hfront hback (trimmed_of_mem_labels hword)
      exact ofLabel?_eq_some_iff_mem.2 (by rw [htrim]; exact hword)

/-! ## The newer shape -/

/-- An entry of a report of the newer shape. -/
structure Warning where
  code : Text
  message : Text
  line : UInt32
  column : UInt32
  suggestion : Option Text
  deriving DecidableEq, Repr

namespace Warning

structure Members (w : Warning) (members : List (Text × Value)) : Prop where
  code : Holds members ["code"] .string [] w.code
  message : Holds members ["msg"] .string [] w.message
  line : Holds members ["line"] countValue 0 w.line
  -- the column, which goes by two keys
  column : Holds members ["column", "col"] countValue 0 w.column
  suggestion : Holds members ["suggestion"] (optionally .string) none w.suggestion
  -- members with other keys are within the limits of the reader of JSON
  others : ∀ m ∈ members,
    m.1 ∉ (["code", "msg", "line", "column", "col", "suggestion"] : List Text) →
      m.2.fits 3 = true

inductive Writes (w : Warning) : Value → Prop where
  | object {members} (h : w.Members members) : Writes w (.object members)

structure ReportedAs (w : Warning) (f : Finding) : Prop where
  code : f.code = w.code
  message : f.message = w.message
  severity : CodeTells w.code f.severity
  line : f.line = w.line.toNat
  column : f.column = w.column.toNat
  suggestion : f.suggestion = w.suggestion

def finding (w : Warning) : Finding :=
  modernFinding w.code w.message w.line.toNat w.column.toNat w.suggestion

theorem reportedAs_finding (w : Warning) : w.ReportedAs w.finding :=
  ⟨rfl, rfl, codeTells_ofCode w.code, rfl, rfl, rfl⟩

variable {w : Warning} {v : Value}

theorem Writes.modernFinding?_eq (h : w.Writes v) : modernFinding? v = some w.finding := by
  cases h with
  | @object members h =>
    obtain ⟨code, hcode, hcode'⟩ := h.code.read textField? id rfl rfl
    obtain ⟨message, hmessage, hmessage'⟩ := h.message.read textField? id rfl rfl
    obtain ⟨line, hline, hline'⟩ :=
      h.line.read countField? UInt32.toNat (count?_countValue w.line) rfl
    obtain ⟨column, hcolumn, hcolumn'⟩ :=
      h.column.read countField? UInt32.toNat (count?_countValue w.column) rfl
    obtain ⟨suggestion, hsuggestion, hsuggestion'⟩ :=
      h.suggestion.read optionalTextField? id (by cases w.suggestion <;> rfl) rfl
    have hfields : fields? warningKeys (.object members) =
        some [code, message, line, column, suggestion] :=
      fields?_object_iff.2
        (.cons hcode (.cons hmessage (.cons hline (.cons hcolumn (.cons hsuggestion .nil)))))
    simp [modernFinding?, hfields, hcode', hmessage', hline', hcolumn', hsuggestion', finding]

theorem Writes.fits (h : w.Writes v) : v.fits 2 = true := by
  cases h with
  | @object members h =>
    have hall : ∀ m ∈ members, m.2.fits 3 = true := by
      intro m hm
      by_cases hknown : m.1 ∈ (["code", "msg", "line", "column", "col", "suggestion"] : List Text)
      · simp only [List.mem_cons, List.not_mem_nil, or_false] at hknown
        rcases hknown with hkey | hkey | hkey | hkey | hkey | hkey
        · exact h.code.fits (string_fits _ 3) hm (by simp [hkey])
        · exact h.message.fits (string_fits _ 3) hm (by simp [hkey])
        · exact h.line.fits (countValue_fits _ 3) hm (by simp [hkey])
        · exact h.column.fits (countValue_fits _ 3) hm (by simp [hkey])
        · exact h.column.fits (countValue_fits _ 3) hm (by simp [hkey])
        · exact h.suggestion.fits (optionally_fits (fun t => string_fits t 3) _) hm (by simp [hkey])
      · exact h.others m hm hknown
    simp [Value.fits, membersFit_iff.2 hall, Json.Builder.depthLimit]

end Warning

/-- What a report of the newer shape means. -/
structure NewerReport where
  -- how many checks were made, if the linter says so
  passed : Option UInt32
  warnings : List Warning
  deriving DecidableEq, Repr

namespace NewerReport

structure Members (r : NewerReport) (members : List (Text × Value)) : Prop where
  passed : Holds members ["passed"] (optionally countValue) none r.passed
  -- the warnings; without any, their list may be left out
  warnings : ∃ found, Found members ["warnings"] found ∧
    ((∃ vs, found = some (.array vs) ∧ List.Forall₂ Warning.Writes r.warnings vs) ∨
      found = none ∧ r.warnings = [])
  -- there are no results, which would make it a report of the older shape
  noResults : ∀ m ∈ members, m.1 ≠ "results".toList
  -- members with other keys are within the limits of the reader of JSON
  others : ∀ m ∈ members, m.1 ∉ (["passed", "warnings"] : List Text) → m.2.fits 1 = true

variable {r : NewerReport} {members : List (Text × Value)}

theorem Members.modern?_eq (h : r.Members members) :
    modern? (.object members) =
      some ⟨r.warnings.map Warning.finding, r.passed.map UInt32.toNat⟩ := by
  have hcount : optionalCountField? (some (optionally countValue r.passed)) =
      some (r.passed.map UInt32.toNat) := by
    cases hpassed : r.passed with
    | none => rfl
    | some n =>
      have hread : optionalCountField? (some (countValue n)) = (count? (countValue n)).map some :=
        rfl
      simp [optionally, hread, count?_countValue]
  obtain ⟨passed, hpassed, hpassed'⟩ :=
    h.passed.read optionalCountField? (Option.map UInt32.toNat) hcount rfl
  obtain ⟨found, hfound, hwarnings⟩ := h.warnings
  have hlist : found.elim (some []) (listOf? modernFinding?) =
      some (r.warnings.map Warning.finding) := by
    rcases hwarnings with ⟨vs, rfl, hall⟩ | ⟨rfl, hnone⟩
    · exact listOf?_of_forall₂ (fun _ _ hw => Warning.Writes.modernFinding?_eq hw) hall
    · rw [hnone]
      rfl
  have hfields : fields? [["passed"], ["warnings"]] (.object members) = some [passed, found] :=
    fields?_object_iff.2 (.cons hpassed (.cons hfound .nil))
  simp only [modern?, hfields]
  simp [hpassed', hlist]

/-- Without results a report is none of the older shape. -/
theorem Members.legacy?_eq (h : r.Members members) : legacy? (.object members) = none := by
  have hnone : Found members ["results"] none := .nowhere (by simpa using h.noResults)
  have hfields : fields? [["results"]] (.object members) = some [none] :=
    fields?_object_iff.2 (.cons hnone .nil)
  simp only [legacy?, hfields]

theorem Members.fits (h : r.Members members) : (Value.object members).fits 0 = true := by
  have hall : ∀ m ∈ members, m.2.fits 1 = true := by
    intro m hm
    by_cases hknown : m.1 ∈ (["passed", "warnings"] : List Text)
    · simp only [List.mem_cons, List.not_mem_nil, or_false] at hknown
      rcases hknown with hkey | hkey
      · exact h.passed.fits (optionally_fits (fun n => countValue_fits n 1) _) hm (by simp [hkey])
      · obtain ⟨found, hfound, hwarnings⟩ := h.warnings
        have hsame := hfound.eq_of_mem hm (by simp [hkey])
        rcases hwarnings with ⟨vs, rfl, hwritten⟩ | ⟨rfl, -⟩
        · have hvalue : .array vs = m.2 := Option.some.inj hsame
          have helements := elementsFit_of_forall₂ (fun _ _ hw => Warning.Writes.fits hw) hwritten
          rw [← hvalue]
          simp [Value.fits, helements, Json.Builder.depthLimit]
        · cases hsame
    · exact h.others m hm hknown
  simp [Value.fits, membersFit_iff.2 hall, Json.Builder.depthLimit]

end NewerReport

/-! ## The older shape -/

/-- An entry of a report of the older shape. -/
structure Result where
  code : Text
  message : Text
  label : Option Text
  line : UInt32
  column : UInt32
  suggestion : Option Text
  deriving DecidableEq, Repr

namespace Result

structure Members (e : Result) (members : List (Text × Value)) : Prop where
  code : Holds members ["rule_id"] .string [] e.code
  message : Holds members ["message"] .string [] e.message
  label : Holds members ["severity"] (optionally .string) none e.label
  line : Holds members ["line"] countValue 0 e.line
  column : Holds members ["column"] countValue 0 e.column
  suggestion : Holds members ["suggestion"] (optionally .string) none e.suggestion
  -- members with other keys are within the limits of the reader of JSON
  others : ∀ m ∈ members,
    m.1 ∉ (["rule_id", "message", "severity", "line", "column", "suggestion"] : List Text) →
      m.2.fits 3 = true

inductive Writes (e : Result) : Value → Prop where
  | object {members} (h : e.Members members) : Writes e (.object members)

structure ReportedAs (e : Result) (f : Finding) : Prop where
  code : f.code = e.code
  message : f.message = e.message
  -- the severity that the label tells, and the one that the code tells if the label tells none
  severity : (∃ label, e.label = some label ∧ LabelTells label f.severity) ∨
    (∀ label severity, e.label = some label → ¬ LabelTells label severity) ∧
      CodeTells e.code f.severity
  line : f.line = e.line.toNat
  column : f.column = e.column.toNat
  suggestion : f.suggestion = e.suggestion

def finding (e : Result) : Finding :=
  legacyFinding e.code e.message e.label e.line.toNat e.column.toNat e.suggestion

theorem reportedAs_finding (e : Result) : e.ReportedAs e.finding := by
  refine ⟨rfl, rfl, ?_, rfl, rfl, rfl⟩
  have hseverity : e.finding.severity =
      (e.label.bind Severity.ofLabel?).getD (Severity.ofCode e.code) := rfl
  cases hlabel : e.label with
  | none =>
    right
    refine ⟨by simp, ?_⟩
    rw [hseverity, hlabel]
    exact codeTells_ofCode e.code
  | some label =>
    cases htold : Severity.ofLabel? label with
    | none =>
      right
      refine ⟨?_, ?_⟩
      · intro label' severity hsame htells
        obtain rfl := Option.some.inj hsame
        have hsome := ofLabel?_eq_some_iff.2 htells
        rw [htold] at hsome
        cases hsome
      · rw [hseverity, hlabel, Option.bind_some, htold]
        exact codeTells_ofCode e.code
    | some severity =>
      left
      refine ⟨label, rfl, ?_⟩
      rw [hseverity, hlabel, Option.bind_some, htold]
      exact ofLabel?_eq_some_iff.1 htold

variable {e : Result} {v : Value}

theorem Writes.legacyFinding?_eq (h : e.Writes v) : legacyFinding? v = some e.finding := by
  cases h with
  | @object members h =>
    obtain ⟨code, hcode, hcode'⟩ := h.code.read textField? id rfl rfl
    obtain ⟨message, hmessage, hmessage'⟩ := h.message.read textField? id rfl rfl
    obtain ⟨label, hlabel, hlabel'⟩ :=
      h.label.read optionalTextField? id (by cases e.label <;> rfl) rfl
    obtain ⟨line, hline, hline'⟩ :=
      h.line.read countField? UInt32.toNat (count?_countValue e.line) rfl
    obtain ⟨column, hcolumn, hcolumn'⟩ :=
      h.column.read countField? UInt32.toNat (count?_countValue e.column) rfl
    obtain ⟨suggestion, hsuggestion, hsuggestion'⟩ :=
      h.suggestion.read optionalTextField? id (by cases e.suggestion <;> rfl) rfl
    have hfields : fields? resultKeys (.object members) =
        some [code, message, label, line, column, suggestion] :=
      fields?_object_iff.2 (.cons hcode (.cons hmessage (.cons hlabel (.cons hline (.cons hcolumn
        (.cons hsuggestion .nil))))))
    simp [legacyFinding?, hfields, hcode', hmessage', hlabel', hline', hcolumn', hsuggestion',
      finding]

theorem Writes.fits (h : e.Writes v) : v.fits 2 = true := by
  cases h with
  | @object members h =>
    have hall : ∀ m ∈ members, m.2.fits 3 = true := by
      intro m hm
      by_cases hknown :
          m.1 ∈ (["rule_id", "message", "severity", "line", "column", "suggestion"] : List Text)
      · simp only [List.mem_cons, List.not_mem_nil, or_false] at hknown
        rcases hknown with hkey | hkey | hkey | hkey | hkey | hkey
        · exact h.code.fits (string_fits _ 3) hm (by simp [hkey])
        · exact h.message.fits (string_fits _ 3) hm (by simp [hkey])
        · exact h.label.fits (optionally_fits (fun t => string_fits t 3) _) hm (by simp [hkey])
        · exact h.line.fits (countValue_fits _ 3) hm (by simp [hkey])
        · exact h.column.fits (countValue_fits _ 3) hm (by simp [hkey])
        · exact h.suggestion.fits (optionally_fits (fun t => string_fits t 3) _) hm (by simp [hkey])
      · exact h.others m hm hknown
    simp [Value.fits, membersFit_iff.2 hall, Json.Builder.depthLimit]

end Result

structure OlderReport where
  results : List Result
  deriving DecidableEq, Repr

namespace OlderReport

structure Members (r : OlderReport) (members : List (Text × Value)) : Prop where
  -- the results, which must not be left out
  results : ∃ vs, Found members ["results"] (some (.array vs)) ∧
    List.Forall₂ Result.Writes r.results vs
  -- members with other keys are within the limits of the reader of JSON
  others : ∀ m ∈ members, m.1 ≠ "results".toList → m.2.fits 1 = true

variable {r : OlderReport} {members : List (Text × Value)}

theorem Members.legacy?_eq (h : r.Members members) :
    legacy? (.object members) = some ⟨r.results.map Result.finding, none⟩ := by
  obtain ⟨vs, hfound, hall⟩ := h.results
  have hlist : listOf? legacyFinding? (.array vs) = some (r.results.map Result.finding) :=
    listOf?_of_forall₂ (fun _ _ he => Result.Writes.legacyFinding?_eq he) hall
  have hfields : fields? [["results"]] (.object members) = some [some (.array vs)] :=
    fields?_object_iff.2 (.cons hfound .nil)
  simp only [legacy?, hfields, hlist, Option.map_some]

theorem Members.fits (h : r.Members members) : (Value.object members).fits 0 = true := by
  have hall : ∀ m ∈ members, m.2.fits 1 = true := by
    intro m hm
    by_cases hkey : m.1 = "results".toList
    · obtain ⟨vs, hfound, hwritten⟩ := h.results
      have hvalue : .array vs = m.2 :=
        Option.some.inj (hfound.eq_of_mem hm (List.mem_singleton.2 hkey))
      have helements := elementsFit_of_forall₂ (fun _ _ he => Result.Writes.fits he) hwritten
      rw [← hvalue]
      simp [Value.fits, helements, Json.Builder.depthLimit]
    · exact h.others m hm hkey
  simp [Value.fits, membersFit_iff.2 hall, Json.Builder.depthLimit]

end OlderReport

/-! ## Outputs -/

/-- The outputs that hold an object, with blanks around its text. -/
inductive Output (members : List (Text × Value)) : Text → Prop where
  | padded {front t back} (hfront : Text.allBlank front = true)
      (hback : Text.allBlank back = true) (h : Json.Spells (.value (.object members)) t) :
      Output members (front ++ t ++ back)

/-- The text of an object begins and ends with a brace. -/
theorem trimmed_of_spells {members : List (Text × Value)} {t : Text}
    (h : Json.Spells (.value (.object members)) t) : Text.Trimmed t ∧ t ≠ [] := by
  have hbraces : ∃ inside, t = '\x7b' :: inside ++ ['\x7d'] := by
    cases h with
    | emptyObject => exact ⟨_, rfl⟩
    | object => exact ⟨_, rfl⟩
  obtain ⟨inside, rfl⟩ := hbraces
  refine ⟨⟨?_, ?_⟩, by simp⟩
  · intro c hc
    obtain rfl : '\x7b' = c := by simpa using hc
    decide
  · intro c hc
    have hlast : ('\x7b' :: inside ++ ['\x7d']).getLast? = some '\x7d' := List.getLast?_concat
    obtain rfl : '\x7d' = c := Option.some.inj (hlast.symm.trans hc)
    decide

theorem Output.ofOutput_eq {members : List (Text × Value)} {output : Text}
    (h : Output members output) :
    Reading.ofOutput output =
      if (Value.object members).fits 0 then Reading.ofValue (.object members)
      else .notJson := by
  cases h with
  | @padded front t back hfront hback h =>
    obtain ⟨htrimmed, hne⟩ := trimmed_of_spells h
    have htrim : Text.trim (front ++ t ++ back) = t := Text.trim_padded hfront hback htrimmed
    have hparse := h.parse?_eq
    have hnonempty : t.isEmpty = false := by simpa using hne
    cases hfits : (Value.object members).fits 0 with
    | true =>
      simp only [Reading.ofOutput, htrim, hnonempty, hparse, hfits, if_true, Bool.false_eq_true,
        if_false]
    | false =>
      simp only [Reading.ofOutput, htrim, hnonempty, hparse, hfits, Bool.false_eq_true, if_false]

section
variable {members : List (Text × Value)} {output : Text} {r : Report}

/-- A report of the older shape is taken for one. -/
theorem Output.ofOutput_older (h : Output members output)
    (hfits : (Value.object members).fits 0 = true) (hlegacy : legacy? (.object members) = some r) :
    Reading.ofOutput output = .recognized r := by
  rw [h.ofOutput_eq, if_pos hfits]
  simp only [Reading.ofValue, hlegacy, Option.orElse_some]

/-- What is no report of the older shape may be one of the newer shape. -/
theorem Output.ofOutput_newer (h : Output members output)
    (hfits : (Value.object members).fits 0 = true) (hlegacy : legacy? (.object members) = none)
    (hmodern : modern? (.object members) = some r) :
    Reading.ofOutput output = .recognized r := by
  rw [h.ofOutput_eq, if_pos hfits]
  simp only [Reading.ofValue, hlegacy, hmodern, Option.orElse_none]

theorem Output.ofOutput_neither (h : Output members output)
    (hfits : (Value.object members).fits 0 = true) (hlegacy : legacy? (.object members) = none)
    (hmodern : modern? (.object members) = none) :
    Reading.ofOutput output = .neitherShape := by
  rw [h.ofOutput_eq, if_pos hfits]
  simp only [Reading.ofValue, hlegacy, hmodern, Option.orElse_none]

end

/-! ## All reports -/

/--
Of every text of a report, with blanks around it, comes exactly one finding for each entry, in order
and with what the entry says.  A report of the newer shape tells the number of checks, one of the
older shape tells none, and nothing is logged about either.
-/
theorem report_of_output :
    (∀ (r : NewerReport) (members : List (Text × Value)) (output : Text),
      r.Members members → Output members output →
      let reading := Reading.ofOutput output
      List.Forall₂ Warning.ReportedAs r.warnings reading.report.findings ∧
        reading.report.checksPassed = r.passed.map UInt32.toNat ∧ reading.log = []) ∧
    ∀ (r : OlderReport) (members : List (Text × Value)) (output : Text),
      r.Members members → Output members output →
      let reading := Reading.ofOutput output
      List.Forall₂ Result.ReportedAs r.results reading.report.findings ∧
        reading.report.checksPassed = none ∧ reading.log = [] := by
  refine ⟨?_, ?_⟩
  · intro r members output hmembers houtput reading
    have hreading : reading =
        .recognized ⟨r.warnings.map Warning.finding, r.passed.map UInt32.toNat⟩ :=
      houtput.ofOutput_newer hmembers.fits hmembers.legacy?_eq hmembers.modern?_eq
    have hall : List.Forall₂ Warning.ReportedAs r.warnings (r.warnings.map Warning.finding) := by
      rw [List.forall₂_map_right_iff, List.forall₂_same]
      exact fun w _ => w.reportedAs_finding
    rw [hreading]
    exact ⟨hall, rfl, rfl⟩
  · intro r members output hmembers houtput reading
    have hreading : reading = .recognized ⟨r.results.map Result.finding, none⟩ :=
      houtput.ofOutput_older hmembers.fits hmembers.legacy?_eq
    have hall : List.Forall₂ Result.ReportedAs r.results (r.results.map Result.finding) := by
      rw [List.forall₂_map_right_iff, List.forall₂_same]
      exact fun e _ => e.reportedAs_finding
    rw [hreading]
    exact ⟨hall, rfl, rfl⟩

/-! ### Two texts with escapes, blanks and left-out defaults -/

/-- The warning of a report, its members in another order than that of the fields. -/
def facesWarning : List (Text × Value) :=
  [("msg".toList, .string "é😀/".toList), ("col".toList, countValue 7),
    ("code".toList, .string "E1".toList)]

def facesMembers : List (Text × Value) :=
  [("warnings".toList, .array [.object facesWarning]), ("ok".toList, .bool false)]

def facesReport : NewerReport :=
  ⟨none, [⟨"E1".toList, "é😀/".toList, 0, 7, none⟩]⟩

def facesText : Text :=
  "\n\x7b \"warnings\" : [\x7b\"msg\":\"\\u00e9\\ud83d\\uDE00\\/\",".toList ++
    " \"col\":7,\"code\":\"E1\"\x7d],\"ok\":false\x7d\u00a0".toList

theorem members_faces : facesReport.Members facesMembers := by
  have hwrites : Warning.Writes ⟨"E1".toList, "é😀/".toList, 0, 7, none⟩
      (.object facesWarning) := by
    refine .object ⟨?_, ?_, ?_, ?_, ?_, ?_⟩
    · exact ⟨_, lookUp?_eq_some_iff.1 rfl, .inl rfl⟩
    · exact ⟨_, lookUp?_eq_some_iff.1 rfl, .inl rfl⟩
    · exact ⟨_, lookUp?_eq_some_iff.1 rfl, .inr ⟨rfl, rfl⟩⟩
    · exact ⟨_, lookUp?_eq_some_iff.1 rfl, .inl rfl⟩
    · exact ⟨_, lookUp?_eq_some_iff.1 rfl, .inr ⟨rfl, rfl⟩⟩
    · simp [facesWarning]
  refine ⟨⟨_, lookUp?_eq_some_iff.1 rfl, .inr ⟨rfl, rfl⟩⟩, ?_, ?_, ?_⟩
  · exact ⟨_, lookUp?_eq_some_iff.1 rfl, .inl ⟨_, rfl, .cons hwrites .nil⟩⟩
  · simp [facesMembers]
  · simp [facesMembers, Value.fits]

/-- The message is an escaped letter, a pair of surrogates and a slash that need not be escaped. -/
theorem stringSpells_faces :
    Json.StringSpells "é😀/".toList "\"\\u00e9\\ud83d\\uDE00\\/\"".toList := by
  have hletter : Json.CharSpells 'é' "\\u00e9".toList := by
    exact .unit (by decide) (@Json.CodeUnit.digits 0 0 14 9 _ _ _ _ (by decide) (by decide)
      (by decide) (by decide))
  have hhigh : Json.CodeUnit 0xD83D "d83d".toList :=
    @Json.CodeUnit.digits 13 8 3 13 _ _ _ _ (by decide) (by decide) (by decide) (by decide)
  have hlow : Json.CodeUnit 0xDE00 "DE00".toList :=
    @Json.CodeUnit.digits 13 14 0 0 _ _ _ _ (by decide) (by decide) (by decide) (by decide)
  have hface := Json.CharSpells.pair (c := '😀') (by decide) hhigh hlow
  have hslash : Json.CharSpells '/' "\\/".toList := .short (by decide)
  exact .quoted (.cons hletter (.cons hface (.cons hslash .nil)))

theorem output_faces : Output facesMembers facesText := by
  have hnone : Json.Spaces [] := by simp [Json.Spaces]
  have hone : Json.Spaces [' '] := by simp [Json.Spaces]
  have hfront : Text.allBlank ['\n'] = true := by decide
  have hback : Text.allBlank ['\u00a0'] = true := by decide
  have hwarning := Json.Spells.object (.members hnone (.plain (t := "msg".toList) (by decide))
    hnone hnone (.string stringSpells_faces) hnone (.members hone
    (.plain (t := "col".toList) (by decide)) hnone hnone (.number (Json.numeralSpells_ofNat 7))
    hnone (.member hnone (.plain (t := "code".toList) (by decide)) hnone hnone
    (.string (.plain (t := "E1".toList) (by decide))) hnone)))
  have hpadded := Output.padded hfront hback (.object (.members hone
    (.plain (t := "warnings".toList) (by decide)) hone hone
    (.array (.element hnone hwarning hnone)) hnone (.member hnone
    (.plain (t := "ok".toList) (by decide)) hnone hnone .falsehood hnone)))
  exact hpadded

/-- A result that names its severity with blanks around it, and the last line that there can be. -/
def hintResult : List (Text × Value) :=
  [("severity".toList, .string " Hint ".toList), ("rule_id".toList, .string "E9".toList),
    ("line".toList, countValue 4294967295)]

def hintMembers : List (Text × Value) :=
  [("results".toList, .array [.object hintResult])]

def hintReport : OlderReport :=
  ⟨[⟨"E9".toList, [], some " Hint ".toList, 4294967295, 0, none⟩]⟩

def hintText : Text :=
  "\x7b\"results\":[\x7b\"severity\":\" Hint \",".toList ++
    "\"rule_id\":\"E9\",\"line\":4294967295\x7d]\x7d".toList

theorem members_hint : hintReport.Members hintMembers := by
  have hwrites : Result.Writes ⟨"E9".toList, [], some " Hint ".toList, 4294967295, 0, none⟩
      (.object hintResult) := by
    refine .object ⟨?_, ?_, ?_, ?_, ?_, ?_, ?_⟩
    · exact ⟨_, lookUp?_eq_some_iff.1 rfl, .inl rfl⟩
    · exact ⟨_, lookUp?_eq_some_iff.1 rfl, .inr ⟨rfl, rfl⟩⟩
    · exact ⟨_, lookUp?_eq_some_iff.1 rfl, .inl rfl⟩
    · exact ⟨_, lookUp?_eq_some_iff.1 rfl, .inl rfl⟩
    · exact ⟨_, lookUp?_eq_some_iff.1 rfl, .inr ⟨rfl, rfl⟩⟩
    · exact ⟨_, lookUp?_eq_some_iff.1 rfl, .inr ⟨rfl, rfl⟩⟩
    · simp [hintResult]
  refine ⟨⟨_, lookUp?_eq_some_iff.1 rfl, .cons hwrites .nil⟩, ?_⟩
  simp [hintMembers]

theorem output_hint : Output hintMembers hintText := by
  have hnone : Json.Spaces [] := by simp [Json.Spaces]
  have hblank : Text.allBlank [] = true := rfl
  have hresult := Json.Spells.object (.members hnone
    (.plain (t := "severity".toList) (by decide)) hnone hnone
    (.string (.plain (t := " Hint ".toList) (by decide))) hnone (.members hnone
    (.plain (t := "rule_id".toList) (by decide)) hnone hnone
    (.string (.plain (t := "E9".toList) (by decide))) hnone (.member hnone
    (.plain (t := "line".toList) (by decide)) hnone hnone
    (.number (Json.numeralSpells_ofNat 4294967295)) hnone)))
  have hpadded := Output.padded hblank hblank (.object (.member hnone
    (.plain (t := "results".toList) (by decide)) hnone hnone
    (.array (.element hnone hresult hnone)) hnone))
  exact hpadded

/-- A report of each shape, with escapes, blanks and left-out defaults. -/
theorem report_of_output_escaped :
    (facesReport.Members facesMembers ∧ Output facesMembers facesText ∧
      List.Forall₂ Warning.ReportedAs facesReport.warnings
        (Reading.ofOutput facesText).report.findings) ∧
    hintReport.Members hintMembers ∧ Output hintMembers hintText ∧
      List.Forall₂ Result.ReportedAs hintReport.results
        (Reading.ofOutput hintText).report.findings := by
  obtain ⟨hfaces, -, -⟩ := report_of_output.1 facesReport _ _ members_faces output_faces
  obtain ⟨hhint, -, -⟩ := report_of_output.2 hintReport _ _ members_hint output_hint
  exact ⟨⟨members_faces, output_faces, hfaces⟩, members_hint, output_hint, hhint⟩

end Lint
end ContractAssist
