import ContractAssist.Proofs.Lint.Format

/-!
# Loss — which results are passed over

A report of the older shape is refused as a whole when one of its results is malformed, and is then
tried as a report of the newer shape.  There every field may be left out and `results` is a key like
any other, so that the results can be passed over without a word.

1. `Obeys` says which values are structures with given fields, and `obeys_iff` that these are the
   ones whose fields can be taken apart;
2. `legacy?_isSome_iff` and `modern?_isSome` say which objects have the two shapes;
3. `results_accounted`: the results of an object are all reported, or the output is logged as
   unrecognized, or else they are passed over;
4. `ofOutput_of_malformed`: one malformed result is enough for that, and `results_passed_over` is a
   report with an error that counts as passed.
-/

namespace ContractAssist
namespace Lint

open Json (Value)

/-! ## Structures -/

structure Field where
  keys : List Text
  takes : Value → Prop

/-- A field that is found with a value it takes, or not at all. -/
def Field.Admits (field : Field) (found : Option Value) : Prop :=
  ∀ v, found = some v → field.takes v

/-- A value that is a structure with some fields, each of which may be left out. -/
inductive Obeys (fields : List Field) : Value → Prop where
  -- an object whose members give each field at most once, and a value that it takes
  | object {members} (h : ∀ field ∈ fields,
      ∃ found, Found members field.keys found ∧ field.Admits found) :
      Obeys fields (.object members)
  -- an array of values that the first fields take, in order
  | array {given left vs} (hfields : fields = given ++ left)
      (h : List.Forall₂ (fun field v => field.takes v) given vs) : Obeys fields (.array vs)

/-- What holds for each element of some value can be chosen for all of them. -/
theorem exists_forall₂_iff {α β : Type} {R : α → β → Prop} {as : List α} :
    (∃ bs, List.Forall₂ R as bs) ↔ ∀ a ∈ as, ∃ b, R a b := by
  induction as with
  | nil => exact ⟨by simp, fun _ => ⟨[], .nil⟩⟩
  | cons a as ih =>
    rw [List.forall_mem_cons, ← ih]
    constructor
    · rintro ⟨bs, h⟩
      cases h with
      | cons hhead htail => exact ⟨⟨_, hhead⟩, _, htail⟩
    · rintro ⟨⟨b, hhead⟩, bs, htail⟩
      exact ⟨b :: bs, .cons hhead htail⟩

theorem forall₂_admits_none (fields : List Field) :
    List.Forall₂ Field.Admits fields (List.replicate fields.length none) := by
  induction fields with
  | nil => exact .nil
  | cons field fields ih => exact .cons (fun v h => by cases h) ih

/-- The first fields take the values of an array, and the others are left out. -/
theorem forall₂_admits_iff {fields : List Field} {vs : List Value} :
    vs.length ≤ fields.length ∧ List.Forall₂ Field.Admits fields
        (vs.map some ++ List.replicate (fields.length - vs.length) none) ↔
      ∃ given left, fields = given ++ left ∧
        List.Forall₂ (fun field v => field.takes v) given vs := by
  induction vs generalizing fields with
  | nil =>
    refine ⟨fun _ => ⟨[], fields, rfl, .nil⟩, fun _ => ⟨Nat.zero_le _, ?_⟩⟩
    exact forall₂_admits_none fields
  | cons v vs ih =>
    cases fields with
    | nil =>
      refine ⟨fun h => absurd h.1 (by simp), ?_⟩
      rintro ⟨given, left, hfields, h⟩
      obtain ⟨rfl, -⟩ := List.append_eq_nil_iff.1 hfields.symm
      cases h
    | cons field fields =>
      -- a value takes a field with it, so as many fields as before are left out
      have hlength : (field :: fields).length - (v :: vs).length = fields.length - vs.length := by
        simp only [List.length_cons]
        omega
      rw [hlength, List.map_cons, List.cons_append, List.forall₂_cons]
      constructor
      · rintro ⟨hle, hfield, h⟩
        obtain ⟨given, left, rfl, hgiven⟩ := ih.1 ⟨by simpa using hle, h⟩
        exact ⟨field :: given, left, rfl, .cons (hfield v rfl) hgiven⟩
      · rintro ⟨given, left, hfields, h⟩
        cases h with
        | @cons field' _ given _ hfield hgiven =>
          obtain ⟨rfl, rfl⟩ := List.cons.inj hfields
          obtain ⟨hle, h⟩ := ih.2 ⟨given, left, rfl, hgiven⟩
          refine ⟨by simpa using hle, ?_, h⟩
          intro w hw
          obtain rfl := Option.some.inj hw
          exact hfield

/-- The structures are the values whose fields can be taken apart, each with a value it takes. -/
theorem obeys_iff {fields : List Field} {v : Value} :
    Obeys fields v ↔ ∃ founds, fields? (fields.map Field.keys) v = some founds ∧
      List.Forall₂ Field.Admits fields founds := by
  cases v with
  | object members =>
    simp only [fields?_object_iff, List.forall₂_map_left_iff]
    constructor
    · rintro ⟨h⟩
      obtain ⟨founds, hall⟩ := exists_forall₂_iff.2 h
      exact ⟨founds, hall.imp fun _ _ h => h.1, hall.imp fun _ _ h => h.2⟩
    · rintro ⟨founds, hfound, hadmits⟩
      have hall := hfound.mp (fun _ _ hfound hadmits => And.intro hfound hadmits) hadmits
      exact .object (exists_forall₂_iff.1 ⟨founds, hall⟩)
  | array vs =>
    -- the values go to the fields from the front, and the fields that none reaches are left out
    have hfields : fields? (fields.map Field.keys) (.array vs) =
        if vs.length ≤ fields.length then
          some (vs.map some ++ List.replicate (fields.length - vs.length) none)
        else none := by
      simp only [fields?, List.length_map]
    rw [hfields]
    constructor
    · intro h
      cases h with
      | array hfields h =>
        obtain ⟨hle, hadmits⟩ := forall₂_admits_iff.2 ⟨_, _, hfields, h⟩
        exact ⟨_, if_pos hle, hadmits⟩
    · rintro ⟨founds, hfields, hadmits⟩
      by_cases hle : vs.length ≤ fields.length
      · rw [if_pos hle] at hfields
        obtain rfl := Option.some.inj hfields
        obtain ⟨given, left, hsplit, hgiven⟩ := forall₂_admits_iff.1 ⟨hle, hadmits⟩
        exact .array hsplit hgiven
      · rw [if_neg hle] at hfields
        cases hfields
  | null | bool | number | string =>
    constructor
    · intro h
      cases h
    · rintro ⟨founds, hfields, -⟩
      cases hfields

/-! ## The values that fields take -/

def isText (v : Value) : Prop :=
  ∃ t, v = .string t

def isCount (v : Value) : Prop :=
  ∃ digits, v = .number ⟨false, digits, none, none⟩ ∧ Text.decimalValue digits < Nat.pow 2 32

def isListOf (fields : List Field) (v : Value) : Prop :=
  ∃ vs, v = .array vs ∧ ∀ v ∈ vs, Obeys fields v

def orNull (takes : Value → Prop) (v : Value) : Prop :=
  v = .null ∨ takes v

def resultFields : List Field :=
  [⟨["rule_id"], isText⟩, ⟨["message"], isText⟩, ⟨["severity"], orNull isText⟩,
    ⟨["line"], isCount⟩, ⟨["column"], isCount⟩, ⟨["suggestion"], orNull isText⟩]

def warningFields : List Field :=
  [⟨["code"], isText⟩, ⟨["msg"], isText⟩, ⟨["line"], isCount⟩, ⟨["column", "col"], isCount⟩,
    ⟨["suggestion"], orNull isText⟩]

def reportFields : List Field :=
  [⟨["passed"], orNull isCount⟩, ⟨["warnings"], isListOf warningFields⟩]

variable {keys : List Text} {found : Option Value}

theorem textField?_isSome : (textField? found).isSome ↔ Field.Admits ⟨keys, isText⟩ found := by
  rcases found with _ | v
  · simp [textField?, Field.Admits]
  · cases v <;> simp [textField?, Field.Admits, isText]

theorem optionalTextField?_isSome :
    (optionalTextField? found).isSome ↔ Field.Admits ⟨keys, orNull isText⟩ found := by
  rcases found with _ | v
  · simp [optionalTextField?, Field.Admits]
  · cases v <;> simp [optionalTextField?, Field.Admits, orNull, isText]

theorem count?_isSome {v : Value} : (count? v).isSome ↔ isCount v := by
  cases v with
  | number n =>
    obtain ⟨negative, whole, fraction, exponent⟩ := n
    cases negative <;> cases fraction <;> cases exponent <;>
      simp [count?, isCount, Json.Numeral.natural?, Option.isSome_filter]
  | _ => simp [count?, isCount]

theorem countField?_isSome : (countField? found).isSome ↔ Field.Admits ⟨keys, isCount⟩ found := by
  rcases found with _ | v
  · simp [countField?, Field.Admits]
  · simp [countField?, Field.Admits, count?_isSome]

theorem optionalCountField?_isSome :
    (optionalCountField? found).isSome ↔ Field.Admits ⟨keys, orNull isCount⟩ found := by
  rcases found with _ | v
  · simp [optionalCountField?, Field.Admits]
  · cases v <;> simp [optionalCountField?, Field.Admits, orNull, count?_isSome]

/-! ## Entries and reports -/

theorem any_const {α : Type} (a : Option α) (b : Bool) :
    (a.any fun _ => b) = (a.isSome && b) := by
  cases a <;> rfl

theorem obeys_iff_of_fields? {fields : List Field} {founds : List (Option Value)} {v : Value}
    (h : fields? (fields.map Field.keys) v = some founds) :
    Obeys fields v ↔ List.Forall₂ Field.Admits fields founds := by
  rw [obeys_iff]
  simp only [h, Option.some.injEq, exists_eq_left']

theorem legacyFinding?_isSome {v : Value} :
    (legacyFinding? v).isSome ↔ Obeys resultFields v := by
  unfold legacyFinding?
  split
  · next code message severity line column suggestion hfields =>
    rw [@obeys_iff_of_fields? resultFields _ _ hfields]
    simp only [resultFields, List.forall₂_cons, List.forall₂_nil_left_iff, ← textField?_isSome,
      ← optionalTextField?_isSome, ← countField?_isSome, Option.bind_eq_bind, Option.pure_def,
      Option.isSome_bind, Option.isSome_some, any_const, Bool.and_true, Bool.and_eq_true, and_true]
  · next hother =>
    -- whatever obeys is taken apart into six fields, and those are read above
    constructor
    · intro h
      cases h
    · intro h
      obtain ⟨founds, hfields, hall⟩ := obeys_iff.1 h
      have hlength : 6 = founds.length := hall.length_eq
      match founds, hlength with
      | [_, _, _, _, _, _], _ => exact absurd hfields (hother _ _ _ _ _ _)

theorem modernFinding?_isSome {v : Value} :
    (modernFinding? v).isSome ↔ Obeys warningFields v := by
  unfold modernFinding?
  split
  · next code message line column suggestion hfields =>
    rw [@obeys_iff_of_fields? warningFields _ _ hfields]
    simp only [warningFields, List.forall₂_cons, List.forall₂_nil_left_iff, ← textField?_isSome,
      ← optionalTextField?_isSome, ← countField?_isSome, Option.bind_eq_bind, Option.pure_def,
      Option.isSome_bind, Option.isSome_some, any_const, Bool.and_true, Bool.and_eq_true, and_true]
  · next hother =>
    constructor
    · intro h
      cases h
    · intro h
      obtain ⟨founds, hfields, hall⟩ := obeys_iff.1 h
      have hlength : 5 = founds.length := hall.length_eq
      match founds, hlength with
      | [_, _, _, _, _], _ => exact absurd hfields (hother _ _ _ _ _)

theorem listOf?_eq_some_iff {α : Type} {element? : Value → Option α} {v : Value} {as : List α} :
    listOf? element? v = some as ↔
      ∃ vs, v = .array vs ∧ List.Forall₂ (fun v a => element? v = some a) vs as := by
  cases v with
  | array vs =>
    refine mapM_eq_some_iff.trans ⟨fun h => ⟨vs, rfl, h⟩, ?_⟩
    rintro ⟨vs', hsame, h⟩
    cases hsame
    exact h
  | _ => simp [listOf?]

theorem listOf?_isSome {α : Type} {element? : Value → Option α} {fields : List Field}
    (helement : ∀ v, (element? v).isSome ↔ Obeys fields v) {v : Value} :
    (listOf? element? v).isSome ↔ isListOf fields v := by
  simp only [Option.isSome_iff_exists, listOf?_eq_some_iff]
  constructor
  · rintro ⟨as, vs, rfl, h⟩
    refine ⟨vs, rfl, ?_⟩
    intro v hv
    exact (helement v).1 (Option.isSome_iff_exists.2 (exists_forall₂_iff.1 ⟨as, h⟩ v hv))
  · rintro ⟨vs, rfl, h⟩
    obtain ⟨as, hall⟩ := exists_forall₂_iff.2 fun v hv =>
      Option.isSome_iff_exists.1 ((helement v).2 (h v hv))
    exact ⟨as, vs, rfl, hall⟩

theorem warnings_isSome : (found.elim (some []) (listOf? modernFinding?)).isSome ↔
    Field.Admits ⟨keys, isListOf warningFields⟩ found := by
  cases found with
  | none => simp [Field.Admits]
  | some v => simp [Field.Admits, listOf?_isSome fun _ => modernFinding?_isSome]

theorem modern?_isSome {v : Value} : (modern? v).isSome ↔ Obeys reportFields v := by
  unfold modern?
  split
  · next passed warnings hfields =>
    rw [@obeys_iff_of_fields? reportFields _ _ hfields]
    simp only [reportFields, List.forall₂_cons, List.forall₂_nil_left_iff,
      ← optionalCountField?_isSome, ← warnings_isSome, Option.bind_eq_bind, Option.pure_def,
      Option.isSome_bind, Option.isSome_some, any_const, Bool.and_true, Bool.and_eq_true, and_true]
  · next hother =>
    constructor
    · intro h
      cases h
    · intro h
      obtain ⟨founds, hfields, hall⟩ := obeys_iff.1 h
      have hlength : 2 = founds.length := hall.length_eq
      match founds, hlength with
      | [_, _], _ => exact absurd hfields (hother _ _)

variable {members : List (Text × Value)}

section
variable {vs : List Value}

/-- What is read from an object of the older shape that has these results. -/
theorem legacy?_eq_some_iff {r : Report} (hresults : ("results".toList, .array vs) ∈ members) :
    legacy? (.object members) = some r ↔ Found members ["results"] (some (.array vs)) ∧
      List.Forall₂ (fun v f => legacyFinding? v = some f) vs r.findings ∧
      r.checksPassed = none := by
  constructor
  · intro h
    simp only [legacy?] at h
    split at h
    · next results hfields =>
      obtain ⟨findings, hlist, rfl⟩ := Option.map_eq_some_iff.1 h
      cases fields?_object_iff.1 hfields with
      | cons hfound _ =>
        obtain rfl : results = .array vs :=
          Option.some.inj (hfound.eq_of_mem hresults (List.mem_singleton.2 rfl))
        exact ⟨hfound, mapM_eq_some_iff.1 hlist, rfl⟩
    · cases h
  · rintro ⟨hfound, hall, hchecks⟩
    have hfields : fields? [["results"]] (.object members) = some [some (.array vs)] :=
      fields?_object_iff.2 (.cons hfound .nil)
    have hlist : listOf? legacyFinding? (.array vs) = some r.findings := mapM_eq_some_iff.2 hall
    simp only [legacy?, hfields, hlist, Option.map_some, ← hchecks]

/-- An object is of the older shape if it has these results only, and they are well-formed. -/
theorem legacy?_isSome_iff (hresults : ("results".toList, .array vs) ∈ members) :
    (legacy? (.object members)).isSome ↔
      Found members ["results"] (some (.array vs)) ∧ ∀ v ∈ vs, Obeys resultFields v := by
  rw [Option.isSome_iff_exists]
  constructor
  · rintro ⟨r, hr⟩
    obtain ⟨hfound, hall, -⟩ := (legacy?_eq_some_iff hresults).1 hr
    refine ⟨hfound, ?_⟩
    intro v hv
    have hread : (legacyFinding? v).isSome :=
      Option.isSome_iff_exists.2 (exists_forall₂_iff.1 ⟨_, hall⟩ v hv)
    exact legacyFinding?_isSome.1 hread
  · rintro ⟨hfound, hobey⟩
    obtain ⟨findings, hall⟩ := exists_forall₂_iff.2 fun v hv =>
      Option.isSome_iff_exists.1 (legacyFinding?_isSome.2 (hobey v hv))
    exact ⟨⟨findings, none⟩, (legacy?_eq_some_iff hresults).2 ⟨hfound, hall, rfl⟩⟩

end

/-- What is read from an object of the newer shape, whatever its results. -/
theorem modern?_object {r : Report} (h : modern? (.object members) = some r) :
    ∃ warnings, Found members ["warnings"] warnings ∧
      warnings.elim (some []) (listOf? modernFinding?) = some r.findings := by
  simp only [modern?] at h
  split at h
  · next passed warnings hfields =>
    obtain ⟨checks, -, h⟩ := Option.bind_eq_some_iff.1 h
    obtain ⟨findings, hfindings, h⟩ := Option.bind_eq_some_iff.1 h
    obtain rfl := Option.some.inj h
    cases fields?_object_iff.1 hfields with
    | cons _ hall =>
      cases hall with
      | cons hfound _ => exact ⟨warnings, hfound, hfindings⟩
  · cases h

/-! ## All results -/

structure Result.Tells (v : Value) (f : Finding) : Prop where
  read : legacyFinding? v = some f
  reported : ∀ e : Result, e.Writes v → e.ReportedAs f

structure Warning.Tells (v : Value) (f : Finding) : Prop where
  read : modernFinding? v = some f
  reported : ∀ w : Warning, w.Writes v → w.ReportedAs f

theorem Result.tells_of_eq {v : Value} {f : Finding} (h : legacyFinding? v = some f) :
    Result.Tells v f := by
  refine ⟨h, ?_⟩
  intro e he
  obtain rfl : e.finding = f := Option.some.inj (he.legacyFinding?_eq.symm.trans h)
  exact e.reportedAs_finding

theorem Warning.tells_of_eq {v : Value} {f : Finding} (h : modernFinding? v = some f) :
    Warning.Tells v f := by
  refine ⟨h, ?_⟩
  intro w hw
  obtain rfl : w.finding = f := Option.some.inj (hw.modernFinding?_eq.symm.trans h)
  exact w.reportedAs_finding

/--
What becomes of the results of an object.  If they are well-formed they are all reported.  If not,
and the object is a report of the newer shape all the same, they are passed over: the findings are
those of its warnings, and nothing is logged.  Otherwise the output is logged as unrecognized, with
the reason if it was readable.
-/
theorem results_accounted {vs : List Value} {output : Text} (houtput : Output members output)
    (hresults : ("results".toList, .array vs) ∈ members) :
    let reading := Reading.ofOutput output
    let readable := (Value.object members).fits 0 = true
    let older := Found members ["results"] (some (.array vs)) ∧ ∀ v ∈ vs, Obeys resultFields v
    let newer := Obeys reportFields (.object members)
    (readable ∧ older → List.Forall₂ Result.Tells vs reading.report.findings ∧ reading.log = []) ∧
    (readable ∧ ¬ older ∧ newer → reading.log = [] ∧
      (Found members ["warnings"] none ∧ reading.report.findings = [] ∨
        ∃ ws, Found members ["warnings"] (some (.array ws)) ∧
          List.Forall₂ Warning.Tells ws reading.report.findings)) ∧
    (¬ readable ∨ ¬ older ∧ ¬ newer → reading.report = .empty ∧ ∃ fields,
      reading.log = [⟨.warn, "unrecognized linter output; assuming no findings", fields⟩] ∧
      (readable → fields =
        [("error".toList,
          "data did not match any variant of untagged enum RawReport".toList)])) := by
  intro reading readable older newer
  -- the older shape is tried first, and the newer one only if these results are malformed
  have holder : (legacy? (.object members)).isSome ↔ older := legacy?_isSome_iff hresults
  have hnewer : (modern? (.object members)).isSome ↔ newer := modern?_isSome
  have hnone : ∀ {shape? : Option Report}, ¬ shape?.isSome → shape? = none := by simp
  refine ⟨?_, ?_, ?_⟩
  · rintro ⟨hreadable, hshape⟩
    obtain ⟨r, hr⟩ := Option.isSome_iff_exists.1 (holder.2 hshape)
    have hreading : reading = .recognized r := houtput.ofOutput_older hreadable hr
    obtain ⟨-, hall, -⟩ := (legacy?_eq_some_iff hresults).1 hr
    rw [hreading]
    exact ⟨hall.imp fun _ _ => Result.tells_of_eq, rfl⟩
  · rintro ⟨hreadable, hshape, hshape'⟩
    obtain ⟨r, hr⟩ := Option.isSome_iff_exists.1 (hnewer.2 hshape')
    have hreading : reading = .recognized r :=
      houtput.ofOutput_newer hreadable (hnone (mt holder.1 hshape)) hr
    rw [hreading]
    refine ⟨rfl, ?_⟩
    obtain ⟨warnings, hfound, hfindings⟩ := modern?_object hr
    cases warnings with
    | none => exact .inl ⟨hfound, (Option.some.inj hfindings).symm⟩
    | some list =>
      obtain ⟨ws, rfl, hall⟩ := listOf?_eq_some_iff.1 hfindings
      exact .inr ⟨ws, hfound, hall.imp fun _ _ => Warning.tells_of_eq⟩
  · intro h
    by_cases hreadable : (Value.object members).fits 0 = true
    · obtain ⟨hshape, hshape'⟩ := h.resolve_left (not_not_intro hreadable)
      have hreading : reading = .neitherShape := houtput.ofOutput_neither hreadable
        (hnone (mt holder.1 hshape)) (hnone (mt hnewer.1 hshape'))
      rw [hreading]
      exact ⟨rfl, _, rfl, fun _ => rfl⟩
    · have hreading : reading = .notJson := houtput.ofOutput_eq.trans (if_neg hreadable)
      rw [hreading]
      exact ⟨rfl, _, rfl, fun h => absurd h hreadable⟩

/-- A report whose only error has null for a line. -/
def nullLine : List (Text × Value) :=
  [("results".toList, .array [.object [("rule_id".toList, .string "E1".toList),
    ("message".toList, .string "m".toList), ("line".toList, .null)]])]

def nullLineText : Text :=
  "\x7b\"results\":[\x7b\"rule_id\":\"E1\",\"message\":\"m\",\"line\":null\x7d]\x7d".toList

theorem output_nullLine : Output nullLine nullLineText := by
  have hnone : Json.Spaces [] := by simp [Json.Spaces]
  have hresult := Json.Spells.object (.members hnone
    (.plain (t := "rule_id".toList) (by decide)) hnone hnone
    (.string (.plain (t := "E1".toList) (by decide))) hnone (.members hnone
    (.plain (t := "message".toList) (by decide)) hnone hnone
    (.string (.plain (t := "m".toList) (by decide))) hnone (.member hnone
    (.plain (t := "line".toList) (by decide)) hnone hnone .null hnone)))
  have hreport := Json.Spells.object (.member hnone
    (.plain (t := "results".toList) (by decide)) hnone hnone
    (.array (.element hnone hresult hnone)) hnone)
  have hblank : Text.allBlank [] = true := rfl
  have hpadded := Output.padded hblank hblank hreport
  exact hpadded

/-- The error is passed over, and nothing is logged. -/
theorem results_accounted_null_line :
    Output nullLine nullLineText ∧ (∃ vs, ("results".toList, .array vs) ∈ nullLine) ∧
      (Reading.ofOutput nullLineText).log = [] ∧
      (Reading.ofOutput nullLineText).report.findings = [] := by
  have hmem := List.mem_singleton_self (nullLine.head (by decide))
  have hshape : ¬ (Found nullLine ["results"] (some (.array _)) ∧ ∀ v ∈ _, Obeys resultFields v) :=
    mt (legacy?_isSome_iff hmem).2 (by decide)
  obtain ⟨-, hpassed, -⟩ := results_accounted output_nullLine hmem
  obtain ⟨hlog, hfindings⟩ := hpassed ⟨rfl, hshape, modern?_isSome.1 rfl⟩
  refine ⟨output_nullLine, ⟨_, hmem⟩, hlog, ?_⟩
  rcases hfindings with ⟨-, hnone⟩ | ⟨ws, hfound, -⟩
  · exact hnone
  · have hnowhere : Found nullLine ["warnings"] none := lookUp?_eq_some_iff.1 rfl
    have hsame := hnowhere.lookUp?_eq.symm.trans hfound.lookUp?_eq
    cases hsame

/-- One malformed result is enough for a report without other fields to count as passed. -/
theorem ofOutput_of_malformed {vs : List Value} {v : Value} {output : Text}
    (houtput : Output members output) (hresults : ("results".toList, .array vs) ∈ members)
    (hreadable : (Value.object members).fits 0 = true)
    (hpassed : ∀ m ∈ members, m.1 ∉ ["passed".toList])
    (hwarnings : ∀ m ∈ members, m.1 ∉ ["warnings".toList]) (hv : v ∈ vs)
    (hmalformed : ¬ Obeys resultFields v) :
    Reading.ofOutput output = .recognized .empty := by
  have hlegacy : legacy? (.object members) = none := by
    rw [← Option.not_isSome_iff_eq_none, legacy?_isSome_iff hresults]
    intro h
    exact hmalformed (h.2 v hv)
  have hfields : fields? [["passed"], ["warnings"]] (.object members) = some [none, none] :=
    fields?_object_iff.2 (.cons (.nowhere hpassed) (.cons (.nowhere hwarnings) .nil))
  have hmodern : modern? (.object members) = some .empty := by
    simp only [modern?, hfields]
    rfl
  exact houtput.ofOutput_newer hreadable hlegacy hmodern

/-- Not every result is reported or else logged. -/
theorem results_passed_over :
    ¬ ∀ (members : List (Text × Value)) (vs : List Value) (output : Text),
      Output members output → ("results".toList, .array vs) ∈ members →
      (Reading.ofOutput output).report.findings.length = vs.length ∨
        ∃ fields, (Reading.ofOutput output).log =
          [⟨.warn, "unrecognized linter output; assuming no findings", fields⟩] := by
  intro h
  have hmem := List.mem_singleton_self (nullLine.head (by decide))
  have hreading : Reading.ofOutput nullLineText = .recognized .empty :=
    ofOutput_of_malformed output_nullLine hmem rfl (by decide) (by decide)
      (List.mem_singleton_self _) (mt legacyFinding?_isSome.2 (by decide))
  rcases h nullLine _ nullLineText output_nullLine hmem with hlength | ⟨fields, hlog⟩
  · rw [hreading] at hlength
    cases hlength
  · rw [hreading] at hlog
    cases hlog

end Lint
end ContractAssist
