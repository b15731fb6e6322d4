import ContractAssist.Proofs.CommandLine.Word
import ContractAssist.Proofs.Text.Numeral

/-!
# Request — a request is read back from each of its command lines

1. `valuesOf_map` and the lemmas behind it say which values a request gives to which option;
2. `acceptable_general` and `acceptable_own`: the options of a request are options that its level
   takes, and `Acceptable.rearranged`: so they are in any other order;
3. `read_level`: the words after the name of a command give the options that they spell, and the
   file behind them;
4. `request_eq`: what is read depends only on the values of each option;
5. `Arguments.Written.parse` puts the two levels together.
-/

namespace ContractAssist
namespace CommandLine

variable {level : Level} {given options later : List (Opt × Text)} {o o' : Opt} {c : Command}

/-! ## Values by option -/

theorem mem_valuesOf {value : Text} : value ∈ valuesOf given o ↔ (o, value) ∈ given := by
  simp [valuesOf]

theorem valuesOf_nil (o : Opt) : valuesOf [] o = [] := rfl

theorem valuesOf_map (o o' : Opt) (values : List Text) :
    valuesOf (values.map fun value => (o, value)) o' = if o = o' then values else [] := by
  by_cases h : o = o'
  · induction values with
    | nil => simp [valuesOf]
    | cons value r ih => simpa [valuesOf, h] using ih
  · simp [valuesOf, List.filter_map, h]

theorem valuesOf_setting (o o' : Opt) (value : Option Text) :
    valuesOf (setting o value) o' = if o = o' then value.toList else [] :=
  valuesOf_map o o' value.toList

theorem valuesOf_flag (o o' : Opt) (wanted : Bool) :
    valuesOf (flag o wanted) o' = if o = o' ∧ wanted = true then [[]] else [] := by
  cases wanted with
  | true => simpa [flag] using valuesOf_map o o' [[]]
  | false => simp [flag, valuesOf_nil]

theorem valuesOf_replicate (n : Nat) (o o' : Opt) :
    valuesOf (List.replicate n (o, [])) o' = if o = o' then List.replicate n [] else [] := by
  have h := valuesOf_map o o' (List.replicate n [])
  rwa [List.map_replicate] at h

theorem valuesOf_general (a : Arguments) (o : Opt) :
    valuesOf a.general o =
      match o with
      | .config => a.config.toList
      | .noColor => if a.noColor then [[]] else []
      | .verbose => List.replicate a.verbose []
      | _ => [] := by
  simp only [Arguments.general, valuesOf_append, valuesOf_setting, valuesOf_flag,
    valuesOf_replicate]
  cases o <;> simp

theorem valuesOf_lint (file : Text) (json errorsOnly : Bool) (excludeRules : List Text) (o : Opt) :
    valuesOf (Command.lint file json errorsOnly excludeRules).own o =
      match o with
      | .json => if json then [[]] else []
      | .severity => if errorsOnly then ["error"] else []
      | .excludeRule => excludeRules
      | _ => [] := by
  simp only [Command.own, valuesOf_append, valuesOf_setting, valuesOf_flag, valuesOf_map]
  cases o <;> simp
  cases errorsOnly <;> rfl

theorem valuesOf_deploy (contract : Text) (rpc : Option Text) (timeout : Option Nat) (yes : Bool)
    (passwordEnv : Option Text) (o : Opt) :
    valuesOf (Command.deploy contract rpc timeout yes passwordEnv).own o =
      match o with
      | .contract => [contract]
      | .rpc => rpc.toList
      | .timeout => (timeout.map Text.ofNat).toList
      | .yes => if yes then [[]] else []
      | .passwordEnv => passwordEnv.toList
      | _ => [] := by
  simp only [Command.own, valuesOf_append, valuesOf_setting, valuesOf_flag]
  cases o <;> simp

theorem valuesOf_init (force : Bool) (o : Opt) :
    valuesOf (Command.init force).own o =
      match o with
      | .force => if force then [[]] else []
      | _ => [] := by
  simp only [Command.own, valuesOf_flag]
  cases o <;> simp

/-- All commands understand what is given for all of them. -/
theorem valuesOf_general_of_notMem {a : Arguments} (h : o ∉ Level.everywhere) :
    valuesOf a.general o = [] := by
  rw [valuesOf_general]
  cases o <;> simp [Level.everywhere] at h ⊢

/-- A command has no options of its own among those that all commands understand. -/
theorem valuesOf_own_of_mem (c : Command) (h : o ∈ Level.everywhere) : valuesOf c.own o = [] := by
  have ho : o = .config ∨ o = .noColor ∨ o = .verbose ∨ o = .help := by
    simpa [Level.everywhere] using h
  cases c with
  | lint => rw [valuesOf_lint]; rcases ho with rfl | rfl | rfl | rfl <;> rfl
  | deploy => rw [valuesOf_deploy]; rcases ho with rfl | rfl | rfl | rfl <;> rfl
  | init => rw [valuesOf_init]; rcases ho with rfl | rfl | rfl | rfl <;> rfl

theorem valuesOf_command_of_mem (c : Command) (h : o ∈ Level.everywhere) :
    valuesOf (c.own ++ setting .file c.file?) o = [] := by
  have hfile : .file ≠ o := by
    rintro rfl
    exact absurd h (by decide)
  rw [valuesOf_append, valuesOf_own_of_mem c h, valuesOf_setting, if_neg hfile, List.append_nil]

/-! ## Options that a level takes -/

theorem Rearranges.mem_iff (h : Rearranges given options) {g : Opt × Text} :
    g ∈ given ↔ g ∈ options := by
  rw [← mem_valuesOf, ← mem_valuesOf, h g.1]

theorem Acceptable.rearranged (h : Acceptable level options) (hgiven : Rearranges given options) :
    Acceptable level given where
  takes g hg := h.takes g (hgiven.mem_iff.1 hg)
  once o ho := by
    rw [hgiven o]
    exact h.once o ho

theorem Acceptable.append (h : Acceptable level given) (hlater : Acceptable level later)
    (hother : ∀ o, valuesOf given o = [] ∨ valuesOf later o = []) :
    Acceptable level (given ++ later) where
  takes := List.forall_mem_append.2 ⟨h.takes, hlater.takes⟩
  once o ho := by
    rw [valuesOf_append]
    rcases hother o with hnone | hnone
    · rw [hnone]
      exact hlater.once o ho
    · rw [hnone, List.append_nil]
      exact h.once o ho

/-- It is enough to look at the values of each option. -/
theorem Acceptable.of_values (htakes : ∀ o, ∀ value ∈ valuesOf given o, Takes level o value)
    (honce : ∀ o : Opt, o.repeatable = false → (valuesOf given o).length ≤ 1) :
    Acceptable level given :=
  ⟨fun g hg => htakes g.1 g.2 (mem_valuesOf.2 hg), honce⟩

theorem Level.everywhere_subset (level : Level) : ∀ o ∈ Level.everywhere, o ∈ level.options := by
  cases level <;> decide

/-- A flag has no value. -/
theorem eq_nil_of_mem_flag {wanted : Bool} {value : Text}
    (h : value ∈ if wanted then [[]] else []) : value = [] := by
  cases wanted with
  | true => exact List.mem_singleton.1 h
  | false => exact absurd h List.not_mem_nil

theorem acceptable_general (a : Arguments) (level : Level) : Acceptable level a.general := by
  have hknown := level.everywhere_subset
  apply Acceptable.of_values
  · intro o value hmem
    rw [valuesOf_general] at hmem
    cases o with
    | config => exact ⟨hknown _ (by decide), by decide, nofun, rfl⟩
    | noColor => exact ⟨hknown _ (by decide), by decide, fun _ => eq_nil_of_mem_flag hmem, rfl⟩
    | verbose =>
      exact ⟨hknown _ (by decide), by decide, fun _ => List.eq_of_mem_replicate hmem, rfl⟩
    | _ => exact absurd hmem List.not_mem_nil
  · intro o ho
    rw [valuesOf_general]
    cases o with
    | config => cases a.config <;> simp
    | noColor => cases a.noColor <;> simp
    | verbose => cases ho
    | _ => exact Nat.zero_le 1

theorem acceptable_lint (file : Text) (json errorsOnly : Bool) (excludeRules : List Text) :
    Acceptable .lint (Command.lint file json errorsOnly excludeRules).own := by
  apply Acceptable.of_values
  · intro o value hmem
    rw [valuesOf_lint] at hmem
    cases o with
    | json => exact ⟨by decide, by decide, fun _ => eq_nil_of_mem_flag hmem, rfl⟩
    | severity =>
      have hvalue : value = ("error" : Text) := by
        cases errorsOnly with
        | true => exact List.mem_singleton.1 hmem
        | false => exact absurd hmem List.not_mem_nil
      exact ⟨by decide, by decide, nofun, if_pos hvalue⟩
    | excludeRule => exact ⟨by decide, by decide, nofun, rfl⟩
    | _ => exact absurd hmem List.not_mem_nil
  · intro o ho
    rw [valuesOf_lint]
    cases o with
    | json => cases json <;> simp
    | severity => cases errorsOnly <;> simp
    | excludeRule => cases ho
    | _ => exact Nat.zero_le 1

theorem acceptable_deploy {contract : Text} {timeout : Option Nat} (hcontract : contract ≠ [])
    (htimeout : ∀ seconds ∈ timeout, seconds < Nat.pow 2 64) (rpc : Option Text) (yes : Bool)
    (passwordEnv : Option Text) :
    Acceptable .deploy (Command.deploy contract rpc timeout yes passwordEnv).own := by
  apply Acceptable.of_values
  · intro o value hmem
    rw [valuesOf_deploy] at hmem
    cases o with
    | contract =>
      obtain rfl : value = contract := List.mem_singleton.1 hmem
      have hsound : Opt.objection? .contract value = none := by simp [Opt.objection?, hcontract]
      exact ⟨by decide, by decide, nofun, hsound⟩
    | timeout =>
      obtain ⟨seconds, hseconds, rfl⟩ : ∃ seconds, timeout = some seconds ∧
          Text.ofNat seconds = value := by simpa using hmem
      have hsound : Opt.objection? .timeout (Text.ofNat seconds) = none := by
        simp [Opt.objection?, Text.natural64?_ofNat (htimeout seconds hseconds)]
      exact ⟨by decide, by decide, nofun, hsound⟩
    | rpc => exact ⟨by decide, by decide, nofun, rfl⟩
    | yes => exact ⟨by decide, by decide, fun _ => eq_nil_of_mem_flag hmem, rfl⟩
    | passwordEnv => exact ⟨by decide, by decide, nofun, rfl⟩
    | _ => exact absurd hmem List.not_mem_nil
  · intro o ho
    rw [valuesOf_deploy]
    cases o with
    | contract => exact Nat.le_refl 1
    | rpc => cases rpc <;> simp
    | timeout => cases timeout <;> simp
    | yes => cases yes <;> simp
    | passwordEnv => cases passwordEnv <;> simp
    | _ => exact Nat.zero_le 1

theorem acceptable_init (force : Bool) : Acceptable .init (Command.init force).own := by
  apply Acceptable.of_values
  · intro o value hmem
    rw [valuesOf_init] at hmem
    cases o with
    | force => exact ⟨by decide, by decide, fun _ => eq_nil_of_mem_flag hmem, rfl⟩
    | _ => exact absurd hmem List.not_mem_nil
  · intro o ho
    rw [valuesOf_init]
    cases o with
    | force => cases force <;> simp
    | _ => exact Nat.zero_le 1

theorem acceptable_own (h : c.Expressible) : Acceptable c.level c.own := by
  cases c with
  | lint file json errorsOnly excludeRules =>
    exact acceptable_lint file json errorsOnly excludeRules
  | deploy contract rpc timeout yes passwordEnv =>
    exact acceptable_deploy h.1 h.2 rpc yes passwordEnv
  | init force => exact acceptable_init force

theorem acceptable_all (a : Arguments) (h : a.command.Expressible) :
    Acceptable a.command.level (a.general ++ a.command.own) := by
  refine (acceptable_general a _).append (acceptable_own h) ?_
  intro o
  by_cases ho : o ∈ Level.everywhere
  · exact .inr (valuesOf_own_of_mem a.command ho)
  · exact .inl (valuesOf_general_of_notMem ho)

/-! ## The words behind the options -/

open Draft

/-- Behind its options, a level reads the file that is named there. -/
theorem read_closing (h : c.Expressible) (hgiven : Acceptable c.level given) :
    ∃ d, Draft.words c.level (holding given) c.closing = .ok d ∧
      d.given = given ++ setting .file c.file? := by
  cases c with
  | lint file json errorsOnly excludeRules =>
    have hunknown : Opt.file ∉ Level.options .lint := by decide
    have hfile : valuesOf given .file = [] := by
      rw [List.eq_nil_iff_forall_not_mem]
      exact fun value hvalue => hunknown (hgiven.takes _ (mem_valuesOf.1 hvalue)).known
    have hne : file ≠ [] := h
    have hsound : Opt.objection? .file file = none := by simp [Opt.objection?, hne]
    have hlast : accept ⟨given, none, true, true⟩ .file file =
        .ok ⟨given ++ [(.file, file)], none, true, true⟩ :=
      accept_eq (by decide) (.inr hfile) hsound
    exact ⟨_, hlast, rfl⟩
  | deploy => exact ⟨holding given, rfl, (List.append_nil given).symm⟩
  | init => exact ⟨holding given, rfl, (List.append_nil given).symm⟩

/-- What a level needs is no option that all commands understand, and a command gives it. -/
theorem needs?_given (c : Command) (h : c.level.needs? = some o) :
    o ∉ Level.everywhere ∧ valuesOf (c.own ++ setting .file c.file?) o ≠ [] := by
  cases c with
  | lint file json errorsOnly excludeRules =>
    obtain rfl : .file = o := Option.some.inj h
    exact ⟨by decide, by simp [valuesOf_append, valuesOf_setting, Command.file?]⟩
  | deploy contract rpc timeout yes passwordEnv =>
    obtain rfl : .contract = o := Option.some.inj h
    exact ⟨by decide, by simp [valuesOf_append, valuesOf_deploy]⟩
  | init force => cases h

/-- The words after the name of a command are read as the options that they spell, and the file. -/
theorem read_level {ws : List Text} (h : c.Expressible) (hgiven : Acceptable c.level given)
    (hown : ∀ o ∉ Level.everywhere, valuesOf given o = valuesOf c.own o)
    (hws : SpellsAll given ws) :
    ∃ d, c.level.read (ws ++ c.closing) = .ok d ∧ d.given = given ++ setting .file c.file? := by
  obtain ⟨d, hclosing, hd⟩ := read_closing h hgiven
  have hwords : Draft.words c.level .empty (ws ++ c.closing) = .ok d := by
    have hfirst : Acceptable c.level ([] ++ (given ++ [])) := by simpa using hgiven
    exact (hfirst.words hws c.closing).trans hclosing
  refine ⟨d, ?_, hd⟩
  rw [Level.read, hwords]
  cases hneeds : c.level.needs? with
  | none => rfl
  | some o =>
    obtain ⟨ho, hne⟩ := needs?_given c hneeds
    have hhas : d.has o = true := by
      rw [has_eq, hd, valuesOf_append, hown o ho, ← valuesOf_append]
      simpa using hne
    exact if_pos hhas

/-! ## What is read of a request -/

theorem Draft.value?_eq (d : Draft) (o : Opt) : d.value? o = (valuesOf d.given o).head? := rfl

theorem Draft.values_eq (d : Draft) (o : Opt) : d.values o = valuesOf d.given o := rfl

theorem Draft.count_eq (d : Draft) (o : Opt) : d.count o = (valuesOf d.given o).length := by
  simp [count, valuesOf, List.countP_eq_length_filter]

/-- A command is made of the values of its own options and of the file. -/
theorem commandOf_eq {d : Draft} (h : c.Expressible)
    (hd : ∀ o ∉ Level.everywhere,
      valuesOf d.given o = valuesOf (c.own ++ setting .file c.file?) o) :
    commandOf c.level d = c := by
  -- the file is a bare word, so of all options only its value is not among the own ones
  have hvalues : ∀ o ∉ Level.everywhere, o ≠ .file → valuesOf d.given o = valuesOf c.own o := by
    intro o ho hfile
    rw [hd o ho, valuesOf_append, valuesOf_setting, if_neg (Ne.symm hfile), List.append_nil]
  cases c with
  | lint file json errorsOnly excludeRules =>
    have hfile : valuesOf d.given .file = [file] := by
      rw [hd .file (by decide), valuesOf_append, valuesOf_lint, valuesOf_setting]
      rfl
    have hjson := hvalues .json (by decide) (by decide)
    have hseverity := hvalues .severity (by decide) (by decide)
    have hrules := hvalues .excludeRule (by decide) (by decide)
    rw [valuesOf_lint] at hjson hseverity hrules
    change Command.lint ((d.value? .file).getD []) (d.has .json) (d.has .severity)
      (d.values .excludeRule) = _
    rw [value?_eq, has_eq, has_eq, values_eq, hfile, hjson, hseverity, hrules]
    cases json <;> cases errorsOnly <;> rfl
  | deploy contract rpc timeout yes passwordEnv =>
    have hcontract := hvalues .contract (by decide) (by decide)
    have hrpc := hvalues .rpc (by decide) (by decide)
    have htimeout := hvalues .timeout (by decide) (by decide)
    have hyes := hvalues .yes (by decide) (by decide)
    have hpassword := hvalues .passwordEnv (by decide) (by decide)
    rw [valuesOf_deploy] at hcontract hrpc htimeout hyes hpassword
    have hnumber : ((timeout.map Text.ofNat).toList.head?).bind Text.natural64? = timeout := by
      cases timeout with
      | none => rfl
      | some seconds => exact Text.natural64?_ofNat (h.2 seconds rfl)
    change Command.deploy ((d.value? .contract).getD []) (d.value? .rpc)
      ((d.value? .timeout).bind Text.natural64?) (d.has .yes) (d.value? .passwordEnv) = _
    rw [value?_eq, value?_eq, value?_eq, value?_eq, has_eq, hcontract, hrpc, htimeout, hyes,
      hpassword, hnumber]
    cases rpc <;> cases yes <;> cases passwordEnv <;> rfl
  | init force =>
    have hforce := hvalues .force (by decide) (by decide)
    rw [valuesOf_init] at hforce
    change Command.init (d.has .force) = _
    rw [has_eq, hforce]
    cases force <;> rfl

/--
For what all commands understand, the values of both levels count, those behind the name of the
command first; only for the diagnostics it matters that one level has them all.
-/
theorem request_eq {a : Arguments} {above below : Draft} (h : a.Expressible)
    (hgeneral : ∀ o ∈ Level.everywhere,
      valuesOf below.given o ++ valuesOf above.given o = valuesOf a.general o)
    (hplace : valuesOf below.given .verbose = [] ∨ valuesOf above.given .verbose = [])
    (hown : ∀ o ∉ Level.everywhere,
      valuesOf below.given o = valuesOf (a.command.own ++ setting .file a.command.file?) o) :
    request above a.command.level below = a := by
  have hconfig : (below.value? .config).or (above.value? .config) = a.config := by
    rw [value?_eq, value?_eq, ← List.head?_append, hgeneral .config (by decide), valuesOf_general]
    cases a.config <;> rfl
  have hcolor : (below.has .noColor || above.has .noColor) = a.noColor := by
    have hnone : ((valuesOf below.given .noColor).isEmpty &&
        (valuesOf above.given .noColor).isEmpty) = (valuesOf a.general .noColor).isEmpty := by
      rw [← hgeneral .noColor (by decide), Bool.eq_iff_iff]
      simp
    rw [has_eq, has_eq, ← Bool.not_and, hnone, valuesOf_general]
    cases a.noColor <;> rfl
  have hcount : below.count .verbose + above.count .verbose = a.verbose := by
    rw [count_eq, count_eq, ← List.length_append, hgeneral .verbose (by decide), valuesOf_general,
      List.length_replicate]
  have hverbose : (if below.has .verbose then below.count .verbose else above.count .verbose) =
      a.verbose := by
    rw [count_eq, count_eq] at hcount
    rw [has_eq, count_eq, count_eq]
    rcases hplace with hnone | hnone
    · simpa [hnone] using hcount
    · rw [hnone] at hcount ⊢
      cases hbelow : valuesOf below.given .verbose with
      | nil => simpa [hbelow] using hcount
      | cons => simpa [hbelow] using hcount
  rw [request, hconfig, hcolor, hverbose, Nat.min_eq_right h.verbose, commandOf_eq h.command hown]

/-! ## Command lines -/

/-- Each option that a level takes is spelled in a word of two dashes. -/
theorem Takes.spells {g : Opt × Text} (h : Takes level g.1 g.2) : Spells [g] (spelling g) := by
  obtain ⟨o, value⟩ := g
  have hall : ∀ o ∈ level.options, o.long?.isSome = true := by
    cases level <;> decide
  obtain ⟨name, hname⟩ := Option.isSome_iff_exists.1 (hall o h.known)
  cases ho : o.takesValue with
  | true => simpa [spelling, hname, ho] using Spells.value hname ho value
  | false =>
    -- there is no place for a value
    obtain rfl : value = [] := h.flag ho
    simpa [spelling, hname, ho] using Spells.flag hname ho

theorem Acceptable.spellsAll (h : Acceptable level given) :
    SpellsAll given (given.map spelling) := by
  have htakes := h.takes
  clear h
  induction given with
  | nil => exact .nil
  | cons g r ih =>
    obtain ⟨hg, hr⟩ := List.forall_mem_cons.1 htakes
    exact .cons hg.spells (ih hr)

theorem Rearranges.refl (given : List (Opt × Text)) : Rearranges given given :=
  fun _ => rfl

/-- There is a command line for each place of the options that all commands understand. -/
theorem written_words (a : Arguments) (h : a.Expressible) (place : Place) :
    a.Written place (a.words place) := by
  have hgeneral := acceptable_general a .root
  have hown := acceptable_own h.command
  -- both places take the options in the order of the request, each in a word of its own
  cases place with
  | before => exact .before (.refl _) (.refl _) hgeneral.spellsAll hown.spellsAll
  | after => exact .after (.refl _) (acceptable_all a h.command).spellsAll

theorem Command.name_ne_help (c : Command) : c.name ≠ ("help" : Text) := by
  cases c with
  | lint => exact (by decide : ("lint" : Text) ≠ "help")
  | deploy => exact (by decide : ("deploy" : Text) ≠ "help")
  | init => exact (by decide : ("init" : Text) ≠ "help")

theorem Command.ofName?_name (c : Command) : Level.ofName? c.name = some c.level := by
  cases c with
  | lint => exact (by decide : Level.ofName? "lint" = some .lint)
  | deploy => exact (by decide : Level.ofName? "deploy" = some .deploy)
  | init => exact (by decide : Level.ofName? "init" = some .init)

/-- At its name, a command begins. -/
theorem levels_name {words : List Text} {d : Draft} (hread : c.level.read words = .ok d) :
    levels (holding given) (c.name :: words) = .ok (holding given, c.level, d) := by
  have hopen : (holding given).optionsEnded = false := rfl
  have hfree : (holding given).awaitsValue = false := rfl
  rw [levels]
  simp only [hopen, hfree, c.name_ne_help, c.ofName?_name, decide_false, Bool.and_false,
    Bool.or_self, Bool.false_eq_true, if_false, hread]
  rfl

theorem parse_of_levels {words : List Text} {above below : Draft} {level : Level}
    (h : levels .empty words = .ok (above, level, below)) :
    parse words = .ok (request above level below) := by
  rw [parse, h]
  rfl

/-- A command line of a request is read as the request. -/
theorem Arguments.Written.parse {a : Arguments} (h : a.Expressible) {place : Place}
    {words : List Text} (hwritten : a.Written place words) :
    CommandLine.parse words = .ok a := by
  cases hwritten with
  | @before general own first later hgeneral hown hfirst hlater =>
    have habove : Acceptable .root ([] ++ (general ++ [])) := by
      simpa using (acceptable_general a .root).rearranged hgeneral
    obtain ⟨d, hread, hd⟩ := read_level h.command
      ((acceptable_own h.command).rearranged hown) (fun o _ => hown o) hlater
    have hlevels : levels .empty (first ++ a.command.name :: (later ++ a.command.closing)) =
        .ok (holding general, a.command.level, d) :=
      (habove.levels hfirst _).trans (levels_name hread)
    have hvalues : ∀ o, valuesOf d.given o =
        valuesOf (a.command.own ++ setting .file a.command.file?) o := by
      intro o
      rw [hd, valuesOf_append, hown o, valuesOf_append]
    -- what all commands understand was read before the name, and none of it behind it
    have hbelow : ∀ o ∈ Level.everywhere, valuesOf d.given o = [] := by
      intro o ho
      rw [hvalues, valuesOf_command_of_mem _ ho]
    rw [parse_of_levels hlevels, request_eq h ?_ (.inl (hbelow _ (by decide))) fun o _ => hvalues o]
    intro o ho
    rw [hbelow o ho]
    exact hgeneral o
  | @after given later hgiven hlater =>
    have hown : ∀ o ∉ Level.everywhere, valuesOf given o = valuesOf a.command.own o := by
      intro o ho
      rw [hgiven o, valuesOf_append, valuesOf_general_of_notMem ho, List.nil_append]
    obtain ⟨d, hread, hd⟩ := read_level h.command
      ((acceptable_all a h.command).rearranged hgiven) hown hlater
    have hlevels : levels .empty (a.command.name :: (later ++ a.command.closing)) =
        .ok (holding [], a.command.level, d) :=
      levels_name hread
    have hvalues : ∀ o, valuesOf d.given o =
        valuesOf a.general o ++ valuesOf (a.command.own ++ setting .file a.command.file?) o := by
      intro o
      rw [hd, valuesOf_append, hgiven o, valuesOf_append, valuesOf_append, List.append_assoc]
    -- nothing was read before the name, so both kinds of options are from behind it
    rw [parse_of_levels hlevels, request_eq h ?_ (.inr rfl)]
    · intro o ho
      rw [hvalues, valuesOf_general_of_notMem ho, List.nil_append]
    · intro o ho
      rw [hvalues, valuesOf_command_of_mem _ ho, List.append_nil]
      exact List.append_nil _

/-- Reading undoes writing: there are command lines of the request, with the options that all
commands understand at either place, and each of them is read as the request. -/
theorem parse_written (a : Arguments) (place : Place) (h : a.Expressible) :
    a.Written place (a.words place) ∧ ∀ words, a.Written place words → parse words = .ok a :=
  ⟨written_words a h place, fun _ hwritten => hwritten.parse h⟩

/-- A request with values that look like options, an empty one, and a file that looks like one. -/
def dashed : Arguments :=
  ⟨some "-x=", true, 3, .lint "--json" false true ["", "-v", "a=b"]⟩

theorem expressible_dashed : dashed.Expressible := by
  have hfile : ("--json" : Text) ≠ [] := by decide
  exact ⟨by decide, hfile⟩

theorem spells_configDashed : Spells [(.verbose, []), (.config, "-x=")] "-vc=-x=" :=
  .letters (.more rfl rfl (.value rfl rfl "-x="))

theorem spells_verboseTwice : Spells [(.verbose, []), (.verbose, [])] "-vv" :=
  .letters (.more rfl rfl (.flag rfl rfl))

theorem spells_excludeRule (value : Text) :
    Spells [(.excludeRule, value)] ('-' :: '-' :: (("exclude-rule" : Text) ++ '=' :: value)) :=
  .value rfl rfl value

theorem spells_severity : Spells [(.severity, "error")] "--severity=error" :=
  Spells.value (show Opt.severity.long? = some "severity" from rfl) rfl "error"

theorem written_dashed_before : dashed.Written .before
    ["-vc=-x=", "--no-color", "-vv", "lint", "--exclude-rule=", "--severity=error",
      "--exclude-rule=-v", "--exclude-rule=a=b", "--", "--json"] := by
  have hgeneral : Rearranges [(.verbose, []), (.config, "-x="), (.noColor, []), (.verbose, []),
      (.verbose, [])] dashed.general := fun o => by cases o <;> rfl
  have hown : Rearranges [(.excludeRule, ""), (.severity, "error"), (.excludeRule, "-v"),
      (.excludeRule, "a=b")] dashed.command.own := fun o => by cases o <;> rfl
  have hfirst := SpellsAll.cons spells_configDashed (.cons (.flag (o := .noColor) rfl rfl)
    (.cons spells_verboseTwice .nil))
  have hlater := SpellsAll.cons (spells_excludeRule "") (.cons spells_severity
    (.cons (spells_excludeRule "-v") (.cons (spells_excludeRule "a=b") .nil)))
  exact .before hgeneral hown hfirst hlater

/-- Here the options stand among each other. -/
theorem written_dashed_after : dashed.Written .after
    ["lint", "--exclude-rule=", "-vc=-x=", "--severity=error", "--no-color", "--exclude-rule=-v",
      "-vv", "--exclude-rule=a=b", "--", "--json"] := by
  have hgiven : Rearranges [(.excludeRule, ""), (.verbose, []), (.config, "-x="),
      (.severity, "error"), (.noColor, []), (.excludeRule, "-v"), (.verbose, []), (.verbose, []),
      (.excludeRule, "a=b")] (dashed.general ++ dashed.command.own) := fun o => by cases o <;> rfl
  have hlater := SpellsAll.cons (spells_excludeRule "") (.cons spells_configDashed
    (.cons spells_severity (.cons (.flag (o := .noColor) rfl rfl)
    (.cons (spells_excludeRule "-v") (.cons spells_verboseTwice
    (.cons (spells_excludeRule "a=b") .nil))))))
  exact .after hgiven hlater

/-- With what all commands understand before the name of the command, and with it behind. -/
theorem parse_written_dashes :
    parse ["-vc=-x=", "--no-color", "-vv", "lint", "--exclude-rule=", "--severity=error",
        "--exclude-rule=-v", "--exclude-rule=a=b", "--", "--json"] = .ok dashed ∧
      parse ["lint", "--exclude-rule=", "-vc=-x=", "--severity=error", "--no-color",
        "--exclude-rule=-v", "-vv", "--exclude-rule=a=b", "--", "--json"] = .ok dashed := by
  have hbefore := (parse_written dashed .before expressible_dashed).2
  have hafter := (parse_written dashed .after expressible_dashed).2
  exact ⟨hbefore _ written_dashed_before, hafter _ written_dashed_after⟩

end CommandLine
end ContractAssist
