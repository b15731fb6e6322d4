import ContractAssist.CommandLine.Writing

/-!
# Word — what options on the command line are read as

1. `Level.long?_eq` and `Level.short?_eq`: at a level that understands an option, its spellings are
   its own;
2. `Acceptable` are the options that a level takes, one after another, and `Acceptable.meet` takes
   the next one;
3. `Acceptable.word` reads the options of one word, by `Acceptable.shortLetters` if it has one dash;
4. `Acceptable.words` and `Acceptable.levels` read those of several words.
-/

namespace ContractAssist
namespace CommandLine

/-! ## Spellings -/

namespace Level

variable {level : Level} {o : Opt}

/-- At a level that understands an option, its name is no other option's. -/
theorem long?_eq (h : o ∈ level.options) {name : Text} (hname : o.long? = some name) :
    level.long? name = some o := by
  have hall : ∀ o ∈ level.options, o.long?.all (fun name => level.long? name = some o) = true := by
    cases level <;> decide
  simpa [hname] using hall o h

theorem short?_eq (h : o ∈ level.options) {c : Char} (hc : o.short? = some c) :
    level.short? c = some o := by
  have hall : ∀ o ∈ level.options, o.short?.all (fun c => level.short? c = some o) = true := by
    cases level <;> decide
  simpa [hc] using hall o h

end Level

/-- A name is not empty, and the equals sign behind it is not part of it. -/
theorem Opt.long?_spec {o : Opt} {name : Text} (h : o.long? = some name) :
    name ≠ [] ∧ ∀ c ∈ name, (c != '=') = true := by
  have hname : o.long?.all (fun name => !name.isEmpty && name.all (· != '=')) = true := by
    cases o <;> decide
  simpa [h] using hname

theorem Opt.short?_ne {o : Opt} {c : Char} (h : o.short? = some c) : c ≠ '-' := by
  have hc : o.short?.all (fun c => c ≠ '-') = true := by
    cases o <;> decide
  simpa [h] using hc

namespace Draft

theorem splitName_flag {name : Text} (h : ∀ c ∈ name, (c != '=') = true) :
    splitName name = (name, none) := by
  have hname : (name ++ []).takeWhile (· != '=') = name ++ [] := List.takeWhile_append_of_pos h
  rw [List.append_nil] at hname
  simp [splitName, hname]

theorem splitName_value {name : Text} (h : ∀ c ∈ name, (c != '=') = true) (value : Text) :
    splitName (name ++ '=' :: value) = (name, some value) := by
  have hname : (name ++ '=' :: value).takeWhile (· != '=') = name := by
    rw [List.takeWhile_append_of_pos h, List.takeWhile_cons_of_neg (by decide), List.append_nil]
  simp [splitName, hname]

variable {level : Level} {d d' : Draft} {o : Opt}

theorem shortLetters_flag {c : Char} (hc : level.short? c = some o) (ho : o.takesValue = false)
    (hmeet : d.meet o [] = .ok d') (r : Text) :
    shortLetters level d (c :: r) = shortLetters level d' r := by
  simp [shortLetters, hc, ho, hmeet]

theorem shortLetters_value {c : Char} (hc : level.short? c = some o) (ho : o.takesValue = true)
    (value : Text) : shortLetters level d (c :: '=' :: value) = d.meet o value := by
  simp [shortLetters, hc, ho]

theorem longName_flag {name : Text} (hname : level.long? name = some o) (ho : o.takesValue = false)
    (hversion : o ≠ .version) : longName level d name none = d.meet o [] := by
  simp [longName, hname, ho, hversion]

theorem longName_value {name : Text} (hname : level.long? name = some o) (ho : o.takesValue = true)
    (value : Text) : longName level d name (some value) = d.meet o value := by
  simp [longName, hname, ho]

/-- A word of two dashes and more is the name of an option, with its value if it has one. -/
theorem word_long {name : Text} (hended : d.optionsEnded = false) (hname : name ≠ []) :
    Draft.word level d ('-' :: '-' :: name) =
      longName level d (splitName name).1 (splitName name).2 := by
  obtain ⟨c, name, rfl⟩ := List.exists_cons_of_ne_nil hname
  simp [Draft.word, hended]

theorem word_short {c : Char} (hended : d.optionsEnded = false) (hc : c ≠ '-') (letters : Text) :
    Draft.word level d ('-' :: c :: letters) = shortLetters level d (c :: letters) := by
  simp [Draft.word, hended, hc]

theorem has_eq (d : Draft) (o : Opt) : d.has o = !(valuesOf d.given o).isEmpty := by
  rw [Bool.eq_iff_iff]
  simp [has, valuesOf]

theorem accept_eq {value : Text} (hplain : o ≠ .help ∧ o ≠ .version)
    (honce : o.repeatable = true ∨ valuesOf d.given o = []) (hsound : o.objection? value = none) :
    d.accept o value = .ok { d with given := d.given ++ [(o, value)] } := by
  have hfirst : (!o.repeatable && d.has o) = false := by
    rcases honce with hrepeatable | hnone
    · rw [hrepeatable]
      rfl
    · rw [has_eq, hnone]
      exact Bool.and_false _
  rw [accept, if_neg hplain.1, if_neg hplain.2, hfirst, hsound]
  rfl

/-- A draft in which these options were given, and nothing else was met. -/
def holding (given : List (Opt × Text)) : Draft :=
  ⟨given, none, false, false⟩

end Draft

/-! ## One option after another -/

/-- The level takes the option with this value. -/
structure Takes (level : Level) (o : Opt) (value : Text) : Prop where
  known : o ∈ level.options
  -- the option does not ask about the program
  plain : o ≠ .help ∧ o ≠ .version
  flag : o.takesValue = false → value = []
  sound : o.objection? value = none

structure Acceptable (level : Level) (given : List (Opt × Text)) : Prop where
  -- it takes each of them
  takes : ∀ g ∈ given, Takes level g.1 g.2
  -- none is given too often
  once : ∀ o : Opt, o.repeatable = false → (valuesOf given o).length ≤ 1

theorem valuesOf_append (given later : List (Opt × Text)) (o : Opt) :
    valuesOf (given ++ later) o = valuesOf given o ++ valuesOf later o := by
  simp [valuesOf]

theorem valuesOf_cons_self (o : Opt) (value : Text) (later : List (Opt × Text)) :
    valuesOf ((o, value) :: later) o = value :: valuesOf later o := by
  simp [valuesOf]

open Draft

variable {level : Level} {before later given : List (Opt × Text)} {o : Opt} {value : Text}

/-- An option that comes at its turn is taken note of. -/
theorem Acceptable.meet (h : Acceptable level (before ++ (o, value) :: later)) :
    (holding before).meet o value = .ok (holding (before ++ [(o, value)])) := by
  have hmem : (o, value) ∈ before ++ (o, value) :: later := by simp
  have honce : o.repeatable = true ∨ valuesOf before o = [] := by
    cases hrepeatable : o.repeatable with
    | true => exact .inl rfl
    | false =>
      have hlength := h.once o hrepeatable
      rw [valuesOf_append, valuesOf_cons_self, List.length_append, List.length_cons] at hlength
      exact .inr (List.length_eq_zero_iff.1 (by omega))
  exact accept_eq (h.takes _ hmem).plain honce (h.takes _ hmem).sound

theorem Acceptable.shortLetters {letters : Text} (hletters : Letters given letters)
    (h : Acceptable level (before ++ (given ++ later))) :
    Draft.shortLetters level (holding before) letters = .ok (holding (before ++ given)) := by
  induction hletters generalizing before with
  | @flag o c hc ho =>
    have hknown : o ∈ level.options := (h.takes (o, []) (by simp)).known
    exact shortLetters_flag (Level.short?_eq hknown hc) ho h.meet []
  | @value o c hc ho value =>
    have hknown : o ∈ level.options := (h.takes (o, value) (by simp)).known
    exact (shortLetters_value (Level.short?_eq hknown hc) ho value).trans h.meet
  | @more o c given letters hc ho _ ih =>
    have hknown : o ∈ level.options := (h.takes (o, []) (by simp)).known
    have hrest : Acceptable level (before ++ [(o, [])] ++ (given ++ later)) := by simpa using h
    rw [shortLetters_flag (Level.short?_eq hknown hc) ho h.meet, ih hrest, List.append_assoc]
    rfl

theorem Acceptable.word {w : Text} (hw : Spells given w)
    (h : Acceptable level (before ++ (given ++ later))) :
    Draft.word level (holding before) w = .ok (holding (before ++ given)) := by
  cases hw with
  | @flag o name hname ho =>
    have hknown : o ∈ level.options := (h.takes (o, []) (by simp)).known
    have hversion : o ≠ .version := (h.takes (o, []) (by simp)).plain.2
    obtain ⟨hne, hletters⟩ := Opt.long?_spec hname
    rw [word_long rfl hne, splitName_flag hletters,
      longName_flag (Level.long?_eq hknown hname) ho hversion, h.meet]
  | @value o name hname ho value =>
    have hknown : o ∈ level.options := (h.takes (o, value) (by simp)).known
    obtain ⟨hne, hletters⟩ := Opt.long?_spec hname
    rw [word_long rfl (by simp), splitName_value hletters,
      longName_value (Level.long?_eq hknown hname) ho, h.meet]
  | letters hletters =>
    rw [← h.shortLetters hletters]
    cases hletters with
    | flag hc _ => exact word_short rfl (Opt.short?_ne hc) _
    | value hc _ _ => exact word_short rfl (Opt.short?_ne hc) _
    | more hc _ _ => exact word_short rfl (Opt.short?_ne hc) _

/-! ## Several words -/

/-- The options of several words are taken note of, and the words behind them are read. -/
theorem Acceptable.words {ws : List Text} (hws : SpellsAll given ws)
    (h : Acceptable level (before ++ (given ++ later))) (rest : List Text) :
    Draft.words level (holding before) (ws ++ rest) =
      Draft.words level (holding (before ++ given)) rest := by
  induction hws generalizing before with
  | nil => rw [List.append_nil, List.nil_append]
  | @cons given w more ws hw _ ih =>
    rw [List.append_assoc] at h
    have hmore : Acceptable level (before ++ given ++ (more ++ later)) := by rwa [List.append_assoc]
    rw [List.cons_append, Draft.words, h.word hw]
    simp only [ih hmore, List.append_assoc]

/-- A word that holds options begins with a dash, so it is not the name of a command. -/
theorem Spells.ne_name {w : Text} (hw : Spells given w) :
    w ≠ ("help" : Text) ∧ Level.ofName? w = none := by
  obtain ⟨r, rfl⟩ : ∃ r, w = '-' :: r := by
    cases hw with
    | flag => exact ⟨_, rfl⟩
    | value => exact ⟨_, rfl⟩
    | letters => exact ⟨_, rfl⟩
  simp [Level.ofName?]

/-- Before the name of a command, the options of several words are taken note of. -/
theorem Acceptable.levels {ws : List Text} (hws : SpellsAll given ws)
    (h : Acceptable .root (before ++ (given ++ later))) (rest : List Text) :
    CommandLine.levels (holding before) (ws ++ rest) =
      CommandLine.levels (holding (before ++ given)) rest := by
  induction hws generalizing before with
  | nil => rw [List.append_nil, List.nil_append]
  | @cons given w more ws hw _ ih =>
    rw [List.append_assoc] at h
    have hmore : Acceptable .root (before ++ given ++ (more ++ later)) := by rwa [List.append_assoc]
    obtain ⟨hhelp, hname⟩ := hw.ne_name
    have hstep : CommandLine.levels (holding before) (w :: (ws ++ rest)) =
        CommandLine.levels (holding (before ++ given)) (ws ++ rest) := by
      rw [CommandLine.levels, h.word hw]
      simp only [hhelp, hname, decide_false, Bool.and_false, Bool.false_eq_true, if_false, ite_self]
    rw [List.cons_append, hstep, ih hmore, List.append_assoc]

end CommandLine
end ContractAssist
