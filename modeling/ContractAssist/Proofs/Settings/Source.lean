import ContractAssist.Proofs.FileTree.Request
import ContractAssist.Settings.Load

/-!
# Source — which file settings are taken from

A file that is named is read or else loading fails.  Without one, the file in the working directory
and then that of the user are tried, and a file that cannot be read is passed over in silence,
whether it is missing or not.

1. `Supplies` says what each source gives, and `choose_eq_ok_iff` that `choose` finds just that;
2. `load_eq_ok_iff` says what is loaded, `load_eq_error_of_unreadable` and `load_congr` what becomes
   of a file that cannot be read: an error if it was named, and otherwise nothing that would tell it
   from one that is missing;
3. `FileTree.reader` reads a tree of which the system may withhold files, and `Withheld` has all
   causes for which a file that is there cannot be read;
4. `source_of_load` says exactly when a file that is there is passed over.
-/

namespace ContractAssist

/-- Reads the files of a tree, but for those that the system does not let the program read. -/
def FileTree.reader (t : FileTree) (denied : Text → Option IoError) : Settings.FileReader :=
  fun path =>
    match denied path with
    | some cause => .error cause
    | none => t.readText? path

namespace Settings

def Readable (read : FileReader) (path : Text) : Prop :=
  ∃ text, read path = .ok text

inductive Supplies (read : FileReader) (root : Option Text) :
    Option Text → Text → SettingsSource → Prop where
  | named {path text : Text} : read path = .ok text →
      Supplies read root (some path) text (.explicit path)
  | workingDirectory {text : Text} : read localFile = .ok text →
      Supplies read root none text .workingDirectory
  | perUser {dir text : Text} : ¬ Readable read localFile → root = some dir →
      read (userPath dir) = .ok text → Supplies read root none text (.perUser (userPath dir))
  | builtInDefaults : ¬ Readable read localFile →
      (∀ dir, root = some dir → ¬ Readable read (userPath dir)) →
      Supplies read root none [] .builtInDefaults

variable {explicit root : Option Text} {read read' : FileReader} {path text : Text}
variable {source : SettingsSource}

theorem not_readable_iff : ¬ Readable read path ↔ ∃ cause, read path = .error cause := by
  unfold Readable
  cases read path with
  | ok text => simp
  | error cause => simp

theorem supplies_of_choose (h : choose explicit read root = .ok (text, source)) :
    Supplies read root explicit text source := by
  cases explicit with
  | some path =>
    simp only [choose] at h
    split at h
    · rename_i hread
      cases h
      exact .named hread
    · cases h
  | none =>
    simp only [choose] at h
    split at h
    · rename_i hread
      cases h
      exact .workingDirectory hread
    · rename_i hlocal
      -- the cause is forgotten: a file that cannot be read is passed over like a missing one
      have hunread := not_readable_iff.2 ⟨_, hlocal⟩
      cases root with
      | none =>
        cases h
        exact .builtInDefaults hunread (by simp)
      | some dir =>
        simp only at h
        split at h
        · rename_i huser
          cases h
          exact .perUser hunread rfl huser
        · rename_i huser
          cases h
          refine .builtInDefaults hunread ?_
          rintro dir' hdir
          cases hdir
          exact not_readable_iff.2 ⟨_, huser⟩

theorem Supplies.choose_eq (h : Supplies read root explicit text source) :
    choose explicit read root = .ok (text, source) := by
  cases h with
  | named hread => simp only [choose, hread]
  | workingDirectory hread => simp only [choose, hread]
  | perUser hlocal hroot hread =>
    obtain ⟨cause, hlocal⟩ := not_readable_iff.1 hlocal
    subst hroot
    simp only [choose, hlocal, hread]
  | builtInDefaults hlocal huser =>
    obtain ⟨cause, hlocal⟩ := not_readable_iff.1 hlocal
    cases root with
    | none => simp only [choose, hlocal]
    | some dir =>
      obtain ⟨cause', huser⟩ := not_readable_iff.1 (huser dir rfl)
      simp only [choose, hlocal, huser]

theorem choose_eq_ok_iff :
    choose explicit read root = .ok (text, source) ↔ Supplies read root explicit text source :=
  ⟨supplies_of_choose, Supplies.choose_eq⟩

/-- Only a file that is named must be readable. -/
theorem choose_eq_error_iff {e : SettingsError} :
    choose explicit read root = .error e ↔
      ∃ path cause, explicit = some path ∧ read path = .error cause ∧ e = .io cause := by
  constructor
  · intro h
    cases explicit with
    | some path =>
      simp only [choose] at h
      split at h
      · cases h
      · rename_i cause hread
        cases h
        exact ⟨path, cause, rfl, hread, rfl⟩
    | none =>
      simp only [choose] at h
      split at h
      · cases h
      · cases root with
        | none => cases h
        | some dir =>
          simp only at h
          split at h <;> cases h
  · rintro ⟨path, cause, rfl, hread, rfl⟩
    simp only [choose, hread]

/-! ## Loading from a source -/

variable {parse : Text → Except SettingsError Settings} {env : Environment} {settings : Settings}

/-- What is loaded was parsed from a text that a source supplies, overridden and checked. -/
theorem load_eq_ok_iff :
    load parse explicit read env root = .ok (settings, source) ↔
      ∃ text file named, Supplies read root explicit text source ∧ parse text = .ok file ∧
        override env file = .ok named ∧ check named = .ok settings := by
  unfold load
  rw [bind_eq_ok_iff]
  constructor
  · rintro ⟨⟨text, source'⟩, hchoose, h⟩
    obtain ⟨file, hparse, h⟩ := bind_eq_ok_iff.1 h
    obtain ⟨named, hoverride, h⟩ := bind_eq_ok_iff.1 h
    obtain ⟨checked, hcheck, h⟩ := bind_eq_ok_iff.1 h
    cases h
    exact ⟨text, file, named, choose_eq_ok_iff.1 hchoose, hparse, hoverride, hcheck⟩
  · rintro ⟨text, file, named, hsupplies, hparse, hoverride, hcheck⟩
    refine ⟨(text, source), hsupplies.choose_eq, ?_⟩
    refine bind_eq_ok_iff.2 ⟨file, hparse, ?_⟩
    refine bind_eq_ok_iff.2 ⟨named, hoverride, ?_⟩
    exact bind_eq_ok_iff.2 ⟨settings, hcheck, rfl⟩

theorem load_eq_error_of_unreadable {cause : IoError} (h : read path = .error cause) :
    load parse (some path) read env root = .error (.io cause) := by
  have hchoose : choose (some path) read root = .error (.io cause) :=
    choose_eq_error_iff.2 ⟨path, cause, rfl, h, rfl⟩
  rw [load, hchoose]
  rfl

/-- The files that count when none is named, the first one above the second. -/
def implicitFiles (root : Option Text) : List Text :=
  localFile :: root.toList.map userPath

theorem choose_none_eq :
    choose none read root =
      .ok ((((read localFile).toOption.map fun text => (text, .workingDirectory)).or
        (root.bind fun dir => (read (userPath dir)).toOption.map fun text =>
          (text, .perUser (userPath dir)))).getD ([], .builtInDefaults)) := by
  simp only [choose]
  cases read localFile with
  | ok text => rfl
  | error cause =>
    cases root with
    | none => rfl
    | some dir =>
      simp only
      cases hread : read (userPath dir) <;> simp [Except.toOption, hread]

/-- Why a file that is not named cannot be read makes no difference. -/
theorem load_congr
    (h : ∀ path ∈ implicitFiles root, (read path).toOption = (read' path).toOption) :
    load parse none read env root = load parse none read' env root := by
  have hlocal := h localFile List.mem_cons_self
  have hchoose : choose none read root = choose none read' root := by
    cases root with
    | none => simp only [choose_none_eq, hlocal, Option.bind_none]
    | some dir =>
      have huser := h (userPath dir) (by simp [implicitFiles])
      simp only [choose_none_eq, hlocal, huser, Option.bind_some]
  simp only [load, hchoose]

theorem Supplies.ne_workingDirectory_iff (h : Supplies read root none text source) :
    source ≠ .workingDirectory ↔ ¬ Readable read localFile := by
  cases h with
  | workingDirectory hread => simp [Readable, hread]
  | perUser hlocal => simp [hlocal]
  | builtInDefaults hlocal => simp [hlocal]

theorem Supplies.eq_builtInDefaults_iff (h : Supplies read root none text source) :
    source = .builtInDefaults ↔ ∀ path ∈ implicitFiles root, ¬ Readable read path := by
  constructor
  · rintro rfl
    cases h with
    | builtInDefaults hlocal huser =>
      intro path hpath
      rcases List.mem_cons.1 hpath with rfl | hpath
      · exact hlocal
      · obtain ⟨dir, hdir, rfl⟩ := List.mem_map.1 hpath
        exact huser dir (Option.mem_toList.1 hdir)
  · intro hunread
    cases h with
    | workingDirectory hread => exact absurd ⟨_, hread⟩ (hunread localFile List.mem_cons_self)
    | perUser _ hroot hread =>
      subst hroot
      exact absurd ⟨_, hread⟩ (hunread _ (by simp [implicitFiles]))
    | builtInDefaults => rfl

/-! ## Files that are passed over -/

/-- Why a file that is there cannot be read as text. -/
inductive Withheld (t : FileTree) (denied : Text → Option IoError) (path : Text) :
    IoError → Prop where
  | denied {e : IoError} : denied path = some e → Withheld t denied path e
  | directory {place : Place} : denied path = none → t.stat? path = .ok (place, .directory) →
      Withheld t denied path .isADirectory
  | device {place : Place} : denied path = none → t.stat? path = .ok (place, .device .absent) →
      Withheld t denied path .noDevice
  | notText {content : Bytes} : denied path = none → t.read? path = .ok content →
      Utf8.decode? content = none → Withheld t denied path .notText

variable {t : FileTree} {denied : Text → Option IoError} {cause : IoError}

theorem reader_eq_error_iff (hthere : t.pathExists path = true) :
    t.reader denied path = .error cause ↔ Withheld t denied path cause := by
  -- something is there, which leaves every cause but a missing file
  obtain ⟨place, node, hstat⟩ := FileTree.pathExists_iff.1 hthere
  cases hdenied : denied path with
  | some e =>
    simp only [FileTree.reader, hdenied]
    constructor
    · intro h
      cases h
      exact .denied hdenied
    · intro h
      cases h with
      | denied hcause => exact congrArg _ (Option.some.inj (hdenied.symm.trans hcause))
      | directory hallowed => simp [hdenied] at hallowed
      | device hallowed => simp [hdenied] at hallowed
      | notText hallowed => simp [hdenied] at hallowed
  | none =>
    simp only [FileTree.reader, hdenied, FileTree.readText?_eq_error_iff,
      FileTree.read?_eq_error_iff]
    constructor
    · rintro (hcontent | ⟨rfl, content, hread, hdecode⟩)
      · rcases hcontent with hmissing | ⟨rfl, place', hstat'⟩ | ⟨rfl, place', hstat'⟩
        · simp [hstat] at hmissing
        · exact .directory hdenied hstat'
        · exact .device hdenied hstat'
      · exact .notText hdenied hread hdecode
    · intro h
      cases h with
      | denied hcause => simp [hdenied] at hcause
      | directory _ hstat' => exact .inl (.inr (.inl ⟨rfl, _, hstat'⟩))
      | device _ hstat' => exact .inl (.inr (.inr ⟨rfl, _, hstat'⟩))
      | notText _ hread hdecode => exact .inr ⟨rfl, _, hread, hdecode⟩

theorem pathExists_of_readable (h : Readable (t.reader denied) path) :
    t.pathExists path = true := by
  obtain ⟨text, hread⟩ := h
  unfold FileTree.reader at hread
  split at hread
  · cases hread
  · exact FileTree.pathExists_of_readText? hread

theorem not_readable_iff_withheld (hthere : t.pathExists path = true) :
    ¬ Readable (t.reader denied) path ↔ ∃ cause, Withheld t denied path cause := by
  simp only [not_readable_iff, reader_eq_error_iff hthere]

/-- Loading without a named file never fails for what cannot be read. A file that is there but
withheld for any cause is passed over like a missing one; a file that is named is not. -/
theorem source_of_load (t : FileTree) (denied : Text → Option IoError)
    (parse : Text → Except SettingsError Settings) (env : Environment) (root : Option Text) :
    (∀ path cause, t.reader denied path = .error cause →
      load parse (some path) (t.reader denied) env root = .error (.io cause)) ∧
    (∀ settings source, load parse none (t.reader denied) env root = .ok (settings, source) →
      (t.pathExists localFile = true →
        (source ≠ .workingDirectory ↔ ∃ cause, Withheld t denied localFile cause)) ∧
      (source = .builtInDefaults ↔ ∀ path ∈ implicitFiles root, t.pathExists path = true →
        ∃ cause, Withheld t denied path cause)) ∧
    ∀ read, (∀ path ∈ implicitFiles root, (t.reader denied path).toOption = (read path).toOption) →
      load parse none (t.reader denied) env root = load parse none read env root := by
  refine ⟨?_, ?_, ?_⟩
  · intro path cause h
    exact load_eq_error_of_unreadable h
  · intro settings source h
    obtain ⟨text, file, named, hsupplies, -⟩ := load_eq_ok_iff.1 h
    constructor
    · intro hthere
      exact hsupplies.ne_workingDirectory_iff.trans (not_readable_iff_withheld hthere)
    · refine hsupplies.eq_builtInDefaults_iff.trans (forall₂_congr ?_)
      intro path _
      constructor
      · intro hunread hthere
        exact (not_readable_iff_withheld hthere).1 hunread
      · intro hwithheld hread
        have hthere := pathExists_of_readable hread
        exact (not_readable_iff_withheld hthere).2 (hwithheld hthere) hread
  · intro read h
    exact load_congr h

def garbled : FileTree :=
  ⟨[([localFile], .file [0xff] false)], []⟩

/-- A file in the working directory that is no UTF-8 does not count, and nothing is said of it. -/
theorem unreadable_file_passed_over :
    ¬ ∀ (t : FileTree) (denied : Text → Option IoError) (env : Environment) (root : Option Text)
        (settings : Settings) (source : SettingsSource), t.pathExists localFile = true →
      load ofToml? none (t.reader denied) env root = .ok (settings, source) →
      source = .workingDirectory := by
  intro h
  have hthere : garbled.pathExists localFile = true := rfl
  have hload : load ofToml? none (garbled.reader fun _ => none) (fun _ => none) none =
      .ok (default, .builtInDefaults) := rfl
  have hsource := h garbled (fun _ => none) (fun _ => none) none default .builtInDefaults hthere
    hload
  cases hsource

end Settings
end ContractAssist
