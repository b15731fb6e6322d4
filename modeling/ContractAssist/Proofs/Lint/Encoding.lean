import ContractAssist.Lint.Report
import ContractAssist.Proofs.Json.Printer
import ContractAssist.Proofs.Lint.Field
import ContractAssist.Proofs.Lint.Report

/-!
# Encoding — what editors are told of a report

A report that is written for editors is one JSON object, and what it says of each finding can be
read from it again.  Only the two places that mean an unknown line or column are told as if they
were the first line and the first column.

1. `Finding.Written` and `Report.Written` say what the members of an object tell, by their keys, and
   `Finding.Marks` which place stands for a finding;
2. `Report.Sized`: lines, columns and the number of findings are machine numbers;
3. `Report.written_toValue` is how a report is told, `Report.Written.alike` that it tells two
   reports apart;
4. `Reading.sized_report`: so are those of a report that was read;
5. `encoding_of_report` puts this together with the text that is printed and read.
-/

namespace ContractAssist
namespace Lint

open Json (Value)

/-! ## Values with some content -/

inductive Counts (n : Nat) : Value → Prop where
  | digits {numeral} (h : numeral.natural? = some n) : Counts n (.number numeral)

inductive IsObject (P : List (Text × Value) → Prop) : Value → Prop where
  -- the order of the members does not matter
  | object {members} (h : P members) : IsObject P (.object members)

/-- An array whose elements tell some things one by one. -/
inductive IsArray {α : Type} (as : List α) (P : α → Value → Prop) : Value → Prop where
  | array {vs} (h : List.Forall₂ P as vs) : IsArray as P (.array vs)

/-- Exactly one member has this key, and something holds of its value. -/
def Member (members : List (Text × Value)) (key : Text) (P : Value → Prop) : Prop :=
  ∃ v, Found members [key] (some v) ∧ P v

section
variable {members : List (Text × Value)} {key : Text} {P Q : Value → Prop}

theorem Member.of_lookUp? {v : Value} (h : lookUp? members [key] = some (some v)) (hv : P v) :
    Member members key P :=
  ⟨v, lookUp?_eq_some_iff.1 h, hv⟩

theorem Found.unique {keys : List Text} {found found' : Option Value}
    (h : Found members keys found) (h' : Found members keys found') : found = found' :=
  Option.some.inj (h.lookUp?_eq.symm.trans h'.lookUp?_eq)

/-- Two things that are said of one member are said of one value. -/
theorem Member.both (h : Member members key P) (h' : Member members key Q) : ∃ v, P v ∧ Q v := by
  obtain ⟨v, hfound, hv⟩ := h
  obtain ⟨v', hfound', hv'⟩ := h'
  obtain rfl : v = v' := Option.some.inj (hfound.unique hfound')
  exact ⟨v, hv, hv'⟩

theorem counts_ofNat (n : Nat) : Counts n (.ofNat n) :=
  .digits (Json.Numeral.natural?_ofNat n)

theorem Member.eq_of_counts {n n' : Nat} (h : Member members key (Counts n))
    (h' : Member members key (Counts n')) : n = n' := by
  obtain ⟨_, ⟨hn⟩, ⟨hn'⟩⟩ := h.both h'
  exact Option.some.inj (hn.symm.trans hn')

theorem Member.eq_of_string {t t' : Text} (h : Member members key (· = .string t))
    (h' : Member members key (· = .string t')) : t = t' := by
  obtain ⟨_, rfl, heq⟩ := h.both h'
  exact Value.string.inj heq

/-- Two things that are said of the members of one object. -/
theorem Member.object {R S : List (Text × Value) → Prop} (h : Member members key (IsObject R))
    (h' : Member members key (IsObject S)) : ∃ inner, R inner ∧ S inner := by
  obtain ⟨_, ⟨hinner⟩, ⟨hinner'⟩⟩ := h.both h'
  exact ⟨_, hinner, hinner'⟩

end

/-! ## What the members tell -/

structure Position.Written (p : Position) (members : List (Text × Value)) : Prop where
  line : Member members "line" (Counts p.line)
  character : Member members "character" (Counts p.character)

structure Range.Written (r : Range) (members : List (Text × Value)) : Prop where
  start : Member members "start" (IsObject r.start.Written)
  stop : Member members "end" (IsObject r.stop.Written)

/-- The stretch that stands for a finding: one character at its place, counted from zero. -/
structure Finding.Marks (f : Finding) (r : Range) : Prop where
  -- the line is counted from zero; an unknown line counts as the first
  line : r.start.line + 1 = max f.line 1
  character : r.start.character + 1 = max f.column 1
  -- the stretch ends on the same line
  sameLine : r.stop.line = r.start.line
  oneCharacter : r.stop.character = r.start.character + 1
  machine : r.stop.line < UInt32.size ∧ r.stop.character < UInt32.size

structure Finding.Written (f : Finding) (members : List (Text × Value)) : Prop where
  severity : Member members "severity" (· = .string f.severity.name)
  code : Member members "code" (· = .string f.code)
  message : Member members "message" (· = .string f.message)
  suggestion : Found members ["suggestion"] (f.suggestion.map .string)
  range : ∃ r, f.Marks r ∧ Member members "range" (IsObject r.Written)

structure Summary.Written (s : Summary) (members : List (Text × Value)) : Prop where
  total : Member members "total" (Counts s.total)
  error : Member members "error" (Counts s.error)
  warning : Member members "warning" (Counts s.warning)
  info : Member members "info" (Counts s.info)

structure Report.Written (r : Report) (members : List (Text × Value)) : Prop where
  diagnostics : Member members "diagnostics"
    (IsArray r.findings fun f => IsObject f.Written)
  summary : Member members "summary" (IsObject r.summary.Written)

/-! ## How a report is told -/

/-- The line and the column have 32 bits. -/
structure Finding.Sized (f : Finding) : Prop where
  line : f.line < UInt32.size
  column : f.column < UInt32.size

structure Report.Sized (r : Report) : Prop where
  -- those of its findings have 32 bits
  findings : ∀ f ∈ r.findings, f.Sized
  -- the number of its findings has 64 bits
  total : r.findings.length < UInt64.size

theorem Finding.marks_range {f : Finding} (h : f.Sized) : f.Marks f.range := by
  have hline := h.line
  have hcolumn := h.column
  simp only [UInt32.size] at hline hcolumn
  refine ⟨?_, ?_, rfl, rfl, ?_⟩
  · simp only [Finding.range]
    omega
  · simp only [Finding.range]
    omega
  · -- an unknown column is zero, so that only a column with a predecessor can be the largest one
    simp only [Finding.range, UInt32.size]
    omega

theorem written_position (p : Position) : IsObject p.Written (Report.positionValue p) :=
  .object ⟨.of_lookUp? rfl (counts_ofNat p.line), .of_lookUp? rfl (counts_ofNat p.character)⟩

theorem written_range (r : Range) : r.Written
    [("start", Report.positionValue r.start), ("end", Report.positionValue r.stop)] :=
  ⟨.of_lookUp? rfl (written_position r.start), .of_lookUp? rfl (written_position r.stop)⟩

/-- The suggestion stands behind the other members, which are looked up without it as with it. -/
theorem Finding.written_diagnostic {f : Finding} (h : f.Sized) :
    IsObject f.Written (Report.diagnostic f) := by
  have hrange : f.Marks f.range := marks_range h
  refine .object ?_
  cases hsuggestion : f.suggestion with
  | none =>
    refine ⟨.of_lookUp? rfl rfl, .of_lookUp? rfl rfl, .of_lookUp? rfl rfl, ?_, f.range, hrange,
      .of_lookUp? rfl (.object (written_range f.range))⟩
    rw [hsuggestion]
    exact lookUp?_eq_some_iff.1 rfl
  | some s =>
    refine ⟨.of_lookUp? rfl rfl, .of_lookUp? rfl rfl, .of_lookUp? rfl rfl, ?_, f.range, hrange,
      .of_lookUp? rfl (.object (written_range f.range))⟩
    rw [hsuggestion]
    exact lookUp?_eq_some_iff.1 rfl

theorem written_summary (s : Summary) : IsObject s.Written (Report.summaryValue s) :=
  .object ⟨.of_lookUp? rfl (counts_ofNat s.total), .of_lookUp? rfl (counts_ofNat s.error),
    .of_lookUp? rfl (counts_ofNat s.warning), .of_lookUp? rfl (counts_ofNat s.info)⟩

namespace Report

variable {r r' : Report}

theorem written_toValue (h : r.Sized) : IsObject r.Written r.toValue := by
  refine .object ⟨.of_lookUp? rfl (.array ?_), .of_lookUp? rfl (written_summary r.summary)⟩
  rw [List.forall₂_map_right_iff, List.forall₂_same]
  exact fun f hf => Finding.written_diagnostic (h.findings f hf)

/-! ## The text -/

theorem printable_position (p : Position) : (positionValue p).Printable := by
  refine Json.printable_object ?_
  simp [member, Json.printable_ofNat]

theorem printable_diagnostic (f : Finding) : (diagnostic f).Printable := by
  have hrange : (Value.object [member "start" (positionValue f.range.start),
      member "end" (positionValue f.range.stop)]).Printable := by
    refine Json.printable_object ?_
    simp [member, printable_position]
  refine Json.printable_object (List.forall_mem_append.2 ⟨List.forall_mem_cons.2 ⟨hrange, ?_⟩, ?_⟩)
  · simp [member, Json.printable_string]
  · cases f.suggestion <;> simp [member, Json.printable_string]

theorem printable_toValue (r : Report) : r.toValue.Printable := by
  have hdiagnostics : ∀ v ∈ r.findings.map diagnostic, v.Printable := by
    intro v hv
    obtain ⟨f, -, rfl⟩ := List.mem_map.1 hv
    exact printable_diagnostic f
  have hsummary : (summaryValue r.summary).Printable := by
    refine Json.printable_object ?_
    simp [member, Json.printable_ofNat]
  refine Json.printable_object ?_
  simp [member, Json.printable_array hdiagnostics, hsummary]

theorem position_fits {p : Position} (hline : p.line < UInt32.size)
    (hcharacter : p.character < UInt32.size) : (positionValue p).fits 4 = true := by
  have hsmall : UInt32.size < UInt64.size := by decide
  simp [positionValue, member, Value.fits, Json.membersFit, Json.Builder.depthLimit,
    ofNat_fits (Nat.lt_trans hline hsmall), ofNat_fits (Nat.lt_trans hcharacter hsmall)]

theorem diagnostic_fits {f : Finding} (h : f.Sized) : (diagnostic f).fits 2 = true := by
  have hmarks : f.Marks f.range := Finding.marks_range h
  obtain ⟨hstopLine, hstopCharacter⟩ := hmarks.machine
  have hstart : (positionValue f.range.start).fits 4 = true := by
    refine position_fits ?_ ?_
    · rw [← hmarks.sameLine]
      exact hstopLine
    · have hnext := hmarks.oneCharacter
      omega
  have hstop : (positionValue f.range.stop).fits 4 = true :=
    position_fits hstopLine hstopCharacter
  cases hsuggestion : f.suggestion <;>
    simp [diagnostic, member, hsuggestion, Value.fits, Json.membersFit, Json.Builder.depthLimit,
      hstart, hstop]

/-- The counts are bounded by the number of findings. -/
theorem summary_fits (h : r.Sized) : (summaryValue r.summary).fits 1 = true := by
  have hadd := r.count_add
  have hcount : ∀ n ≤ r.findings.length, (Value.ofNat n).fits 2 = true :=
    fun n hn => ofNat_fits (Nat.lt_of_le_of_lt hn h.total) 2
  simp only [summaryValue, summary_eq, member, Value.fits, Json.membersFit, Json.Builder.depthLimit]
  rw [hcount _ (Nat.le_refl _), hcount _ (by omega), hcount _ (by omega), hcount _ (by omega)]
  decide

/-- A report is within the limits of the reader of JSON. -/
theorem toValue_fits (h : r.Sized) : r.toValue.fits 0 = true := by
  have hfindings : List.Forall₂ (fun f v => (diagnostic f = v) ∧ f.Sized) r.findings
      (r.findings.map diagnostic) := by
    rw [List.forall₂_map_right_iff, List.forall₂_same]
    exact fun f hf => ⟨rfl, h.findings f hf⟩
  have helements : Json.elementsFit 2 (r.findings.map diagnostic) = true :=
    elementsFit_of_forall₂ (fun f v hv => hv.1 ▸ diagnostic_fits hv.2) hfindings
  simp [toValue, member, Value.fits, Json.membersFit, Json.Builder.depthLimit, helements,
    summary_fits h]

end Report

/-! ## What the text does not tell -/

/-- Two findings that differ at most in an unknown line or column and the first one. -/
structure Finding.Alike (f f' : Finding) : Prop where
  code : f.code = f'.code
  message : f.message = f'.message
  severity : f.severity = f'.severity
  line : max f.line 1 = max f'.line 1
  column : max f.column 1 = max f'.column 1
  suggestion : f.suggestion = f'.suggestion

section
variable {f f' : Finding} {r r' : Report} {members : List (Text × Value)}

theorem Severity.eq_of_name {s s' : Severity} (h : s.name = s'.name) : s = s' := by
  cases s <;> cases s' <;> first | rfl | exact absurd h (by decide)

theorem Position.Written.unique {p p' : Position} (h : p.Written members)
    (h' : p'.Written members) : p = p' := by
  have hline := h.line.eq_of_counts h'.line
  have hcharacter := h.character.eq_of_counts h'.character
  cases p
  cases p'
  simp_all

theorem Range.Written.start_eq {range range' : Range} (h : range.Written members)
    (h' : range'.Written members) : range.start = range'.start := by
  obtain ⟨_, hstart, hstart'⟩ := h.start.object h'.start
  exact hstart.unique hstart'

theorem Finding.Written.alike (h : f.Written members) (h' : f'.Written members) : f.Alike f' := by
  -- both places are read from one stretch, whose start they share but for unknown ones
  obtain ⟨range, hmarks, hrange⟩ := h.range
  obtain ⟨range', hmarks', hrange'⟩ := h'.range
  obtain ⟨_, hwritten, hwritten'⟩ := hrange.object hrange'
  have hstart : range.start = range'.start := hwritten.start_eq hwritten'
  refine ⟨h.code.eq_of_string h'.code, h.message.eq_of_string h'.message,
    Severity.eq_of_name (h.severity.eq_of_string h'.severity), ?_, ?_, ?_⟩
  · rw [← hmarks.line, ← hmarks'.line, hstart]
  · rw [← hmarks.character, ← hmarks'.character, hstart]
  · have hsuggestion := h.suggestion.unique h'.suggestion
    cases hs : f.suggestion <;> cases hs' : f'.suggestion <;> simp_all

/-- What is told of two lists by one list is told of their elements one by one. -/
theorem forall₂_of_common {α β γ : Type} {R : α → γ → Prop} {S : β → γ → Prop} {T : α → β → Prop}
    (h : ∀ a b c, R a c → S b c → T a b) {as : List α} {bs : List β} {cs : List γ}
    (has : List.Forall₂ R as cs) (hbs : List.Forall₂ S bs cs) : List.Forall₂ T as bs := by
  induction has generalizing bs with
  | nil =>
    cases hbs
    exact .nil
  | cons ha _ ih =>
    cases hbs with
    | cons hb hbs => exact .cons (h _ _ _ ha hb) (ih hbs)

/-- Only findings that are alike are told in the same way. -/
theorem Report.Written.alike (h : r.Written members) (h' : r'.Written members) :
    List.Forall₂ Finding.Alike r.findings r'.findings := by
  obtain ⟨_, ⟨hvs⟩, ⟨hvs'⟩⟩ := h.diagnostics.both h'.diagnostics
  refine forall₂_of_common ?_ hvs hvs'
  rintro f f' v ⟨hf⟩ ⟨hf'⟩
  exact hf.alike hf'

theorem diagnostic_of_alike (h : f.Alike f') : Report.diagnostic f = Report.diagnostic f' := by
  have hline : f.line - 1 = f'.line - 1 := by
    have hmax := h.line
    omega
  have hcolumn : f.column - 1 = f'.column - 1 := by
    have hmax := h.column
    omega
  simp only [Report.diagnostic, Finding.range, h.code, h.message, h.severity, h.suggestion, hline,
    hcolumn]

theorem map_eq_of_forall₂ {α β : Type} {R : α → α → Prop} (g : α → β)
    (hg : ∀ a b, R a b → g a = g b) {as bs : List α} (h : List.Forall₂ R as bs) :
    as.map g = bs.map g := by
  induction h with
  | nil => rfl
  | cons hab _ ih => rw [List.map_cons, List.map_cons, hg _ _ hab, ih]

/-- Findings that are alike are told in the same way. -/
theorem Report.toValue_of_alike (h : List.Forall₂ Finding.Alike r.findings r'.findings) :
    r.toValue = r'.toValue := by
  have hdiagnostics : r.findings.map diagnostic = r'.findings.map diagnostic :=
    map_eq_of_forall₂ diagnostic (fun _ _ => diagnostic_of_alike) h
  have hseverities : r.findings.map Finding.severity = r'.findings.map Finding.severity :=
    map_eq_of_forall₂ Finding.severity (fun _ _ hf => hf.severity) h
  -- only the severities count
  have hcount : ∀ s, r.count s = r'.count s := by
    intro s
    have hcount : ∀ r : Report, r.count s = (r.findings.map Finding.severity).count s := by
      intro r
      simp only [count, List.count_eq_countP, List.countP_map]
      rfl
    rw [hcount, hcount, hseverities]
  have hsummary : r.summary = r'.summary := by
    simp only [summary_eq, h.length_eq, hcount]
  simp only [toValue, hdiagnostics, hsummary]

end

/-! ## Reports that are read -/

section
variable {v : Value} {f : Finding}

theorem count?_lt {n : Nat} (h : count? v = some n) : n < UInt32.size := by
  unfold count? at h
  split at h
  · exact of_decide_eq_true (Option.filter_eq_some_iff.1 h).2
  · cases h

theorem countField?_lt {found : Option Value} {n : Nat} (h : countField? found = some n) :
    n < UInt32.size := by
  cases found with
  | none =>
    obtain rfl : 0 = n := Option.some.inj h
    decide
  | some v => exact count?_lt h

theorem sized_of_legacyFinding? (h : legacyFinding? v = some f) : f.Sized := by
  unfold legacyFinding? at h
  split at h
  · simp only [Option.bind_eq_bind, Option.bind_eq_some_iff] at h
    obtain ⟨_, -, _, -, _, -, _, hline, _, hcolumn, _, -, h⟩ := h
    obtain rfl := Option.some.inj h
    exact ⟨countField?_lt hline, countField?_lt hcolumn⟩
  · cases h

theorem sized_of_modernFinding? (h : modernFinding? v = some f) : f.Sized := by
  unfold modernFinding? at h
  split at h
  · simp only [Option.bind_eq_bind, Option.bind_eq_some_iff] at h
    obtain ⟨_, -, _, -, _, hline, _, hcolumn, _, -, h⟩ := h
    obtain rfl := Option.some.inj h
    exact ⟨countField?_lt hline, countField?_lt hcolumn⟩
  · cases h

theorem sized_of_listOf? {element? : Value → Option Finding}
    (helement : ∀ v f, element? v = some f → f.Sized) {findings : List Finding}
    (h : listOf? element? v = some findings) : ∀ f ∈ findings, f.Sized := by
  unfold listOf? at h
  split at h
  · have hread := mapM_eq_some_iff.1 h
    clear h
    induction hread with
    | nil => simp
    | cons hhead _ ih => exact List.forall_mem_cons.2 ⟨helement _ _ hhead, ih⟩
  · cases h

theorem sized_of_legacy? {r : Report} (h : legacy? v = some r) : ∀ f ∈ r.findings, f.Sized := by
  unfold legacy? at h
  split at h
  · obtain ⟨findings, hfindings, rfl⟩ := Option.map_eq_some_iff.1 h
    exact sized_of_listOf? (fun _ _ => sized_of_legacyFinding?) hfindings
  · cases h

theorem sized_of_modern? {r : Report} (h : modern? v = some r) : ∀ f ∈ r.findings, f.Sized := by
  unfold modern? at h
  split at h
  · next passed warnings _ =>
    simp only [Option.bind_eq_bind, Option.bind_eq_some_iff] at h
    obtain ⟨_, -, findings, hfindings, h⟩ := h
    obtain rfl := Option.some.inj h
    cases warnings with
    | none =>
      obtain rfl : [] = findings := Option.some.inj hfindings
      simp
    | some v => exact sized_of_listOf? (fun _ _ => sized_of_modernFinding?) hfindings
  · cases h

/-- Whatever a linter writes, the lines and columns of its report have 32 bits. -/
theorem Reading.sized_report (output : Text) :
    ∀ f ∈ (Reading.ofOutput output).report.findings, f.Sized := by
  cases hreading : Reading.ofOutput output with
  | nothing => simp [report, Report.empty]
  | notJson => simp [report, Report.empty]
  | neitherShape => simp [report, Report.empty]
  | recognized r =>
    have hvalue : ∃ v, ofValue v = recognized r := by
      unfold ofOutput at hreading
      dsimp only at hreading
      split at hreading
      · cases hreading
      · split at hreading
        · exact ⟨_, hreading⟩
        · cases hreading
    obtain ⟨v, hvalue⟩ := hvalue
    unfold ofValue at hvalue
    split at hvalue
    · next r' hr =>
      obtain rfl := Reading.recognized.inj hvalue
      cases hlegacy : legacy? v with
      | some older =>
        rw [hlegacy] at hr
        obtain rfl : older = r' := Option.some.inj hr
        exact sized_of_legacy? hlegacy
      | none =>
        rw [hlegacy] at hr
        exact sized_of_modern? hr
    · cases hvalue

end

/-! ## All reports -/

/--
The text of a report is one JSON object, and the reader gives it back: it tells each finding, in
order and with its place counted from zero, and the counts.  Two reports have the same text iff
their findings are the same up to an unknown line or column and the first one.  The lines and
columns of the reports that are printed have 32 bits, whatever the linter writes.
-/
theorem encoding_of_report :
    (∀ r : Report, r.Sized → ∃ members, Json.Spells (.value (.object members)) r.toJson ∧
      Value.parse? r.toJson = some (.object members) ∧ r.Written members) ∧
    (∀ r r' : Report, r.Sized → r'.Sized →
      (r.toJson = r'.toJson ↔ List.Forall₂ Finding.Alike r.findings r'.findings)) ∧
    ∀ (filter : Filter) (output : Text),
      ∀ f ∈ (filter.apply (Reading.ofOutput output).report).findings, f.Sized := by
  -- the value that is printed is read back, so that reports of one text have one value
  have hread : ∀ r : Report, r.Sized → Value.parse? r.toJson = some r.toValue := by
    intro r h
    exact r.printable_toValue.parse?_pretty (Report.toValue_fits h)
  refine ⟨?_, ?_, ?_⟩
  · intro r h
    have hspells : Json.Spells (.value r.toValue) r.toJson := r.printable_toValue 0
    have hparse := hread r h
    have hwritten := Report.written_toValue h
    generalize r.toValue = v at hspells hparse hwritten
    cases hwritten with
    | object hmembers => exact ⟨_, hspells, hparse, hmembers⟩
  · intro r r' h h'
    constructor
    · intro htext
      have hvalue : r.toValue = r'.toValue := by
        have hparse := hread r h
        rw [htext, hread r' h'] at hparse
        exact (Option.some.inj hparse).symm
      have hwritten := Report.written_toValue h
      rw [hvalue] at hwritten
      have hwritten' := Report.written_toValue h'
      generalize r'.toValue = v at hwritten hwritten'
      cases hwritten with
      | object hmembers =>
        cases hwritten' with
        | object hmembers' => exact hmembers.alike hmembers'
    · intro halike
      rw [Report.toJson, Report.toJson, Report.toValue_of_alike halike]
  · intro filter output f hf
    rw [Filter.apply_eq] at hf
    exact Reading.sized_report output f (List.mem_of_mem_filter hf)

/-- A finding at a line, with the largest column and with text that needs escapes. -/
def Finding.atLine (line : Nat) : Finding :=
  ⟨"E\"1", "a\\b\t\x07 é😀", .error, line, 4294967295, some "\n"⟩

/-- An unknown line is told like the first line, and unlike the second. -/
theorem encoding_of_report_unplaced :
    (∃ members, Json.Spells (.value (.object members)) (Report.mk [.atLine 0] none).toJson ∧
      Value.parse? (Report.mk [.atLine 0] none).toJson = some (.object members) ∧
      (Report.mk [.atLine 0] none).Written members) ∧
    (Report.mk [.atLine 0] none).toJson = (Report.mk [.atLine 1] (some 3)).toJson ∧
    (Report.mk [.atLine 0] none).toJson ≠ (Report.mk [.atLine 2] none).toJson := by
  have hsized : ∀ line < UInt32.size, ∀ checks, (Report.mk [.atLine line] checks).Sized := by
    intro line hline checks
    have hcolumn : 4294967295 < UInt32.size := by decide
    have htotal : 1 < UInt64.size := by decide
    exact ⟨List.forall_mem_singleton.2 ⟨hline, hcolumn⟩, htotal⟩
  have hunknown := hsized 0 (by decide) none
  refine ⟨encoding_of_report.1 _ hunknown, ?_, ?_⟩
  · have hfirst := hsized 1 (by decide) (some 3)
    exact (encoding_of_report.2.1 _ _ hunknown hfirst).2 (.cons ⟨rfl, rfl, rfl, rfl, rfl, rfl⟩ .nil)
  · have hsecond := hsized 2 (by decide) none
    intro h
    cases (encoding_of_report.2.1 _ _ hunknown hsecond).1 h with
    | cons halike _ => exact absurd halike.line (by decide)

end Lint
end ContractAssist
