import ContractAssist.Proofs.FileTree.Walk

/-!
# Request — what requests by path do to a tree

Each request is described once, by what was found at the end of its path; later proofs do not open
it again.

1. `destination_eq_ok_iff`, `stat?_eq_ok_iff` and their kin say what it takes to find something;
2. `Extends.stat?` and `Grows.stat?` carry what was found over to a later tree, and
   `stat?_of_vacant` says that what is put at the end of a path is found there;
3. `makeDirs?_furnishes`: making directories puts directories where nothing was, and
   `makeDirs?_again`: once they are there, nothing is left to do;
4. `copy?_of_free`, `write?_of_file`, `createNew?_eq_ok` and `createNew?_of_occupied` do the same
   for the requests on files.
-/

namespace ContractAssist
namespace FileTree

variable {t t' : FileTree} {path target : Text} {place q : Place} {node n : Node} {follow : Bool}
variable {d : Destination} {slash : Bool} {content : Bytes} {runnable : Bool} {e : IoError}

/-! ## The end of a path -/

structure Lawful (path : Text) : Prop where
  noNul : path.elem '\x00' = false
  ne_nil : path.isEmpty = false
  byteSize_lt : Text.byteSize path < pathLimit

theorem destination_eq_ok_iff :
    t.destination follow path = .ok d ↔
      Lawful path ∧ t.Leads follow linkLimit (t.startOf path) (parts path) d := by
  rw [← walk_eq_ok_iff]
  unfold destination
  split
  · rename_i hnul
    refine ⟨nofun, ?_⟩
    rintro ⟨hlawful, -⟩
    exact absurd (hnul.symm.trans hlawful.noNul) (by decide)
  split
  · rename_i hempty
    refine ⟨nofun, ?_⟩
    rintro ⟨hlawful, -⟩
    exact absurd (hempty.symm.trans hlawful.ne_nil) (by decide)
  split
  · rename_i hsize
    refine ⟨nofun, ?_⟩
    rintro ⟨hlawful, -⟩
    exact absurd hlawful.byteSize_lt (Nat.not_lt.2 hsize)
  · rename_i hnul hempty hsize
    refine ⟨?_, And.right⟩
    intro h
    exact ⟨⟨by simpa using hnul, by simpa using hempty, Nat.lt_of_not_le hsize⟩, h⟩

theorem startOf_eq (h : t'.workingDir = t.workingDir) (path : Text) :
    t'.startOf path = t.startOf path := by
  simp only [startOf, h]

theorem solid_startOf (hsolid : t.Solid t.workingDir) (path : Text) : t.Solid (t.startOf path) := by
  unfold startOf
  split
  · exact .nil t
  · exact hsolid

theorem stat?_eq_ok_iff :
    t.stat? path = .ok (place, node) ↔ t.destination true path = .ok (.found place node) := by
  unfold stat?
  rw [bind_eq_ok_iff]
  constructor
  · rintro ⟨d, hd, h⟩
    cases d with
    | found place' node' => cases h; exact hd
    | vacant => cases h
  · intro h
    exact ⟨_, h, rfl⟩

theorem pathExists_iff :
    t.pathExists path = true ↔ ∃ place node, t.stat? path = .ok (place, node) := by
  unfold pathExists
  rcases t.stat? path with e | ⟨place, node⟩
  · simp
  · simp

theorem isDirectory_iff :
    t.isDirectory path = true ↔ ∃ place, t.stat? path = .ok (place, .directory) := by
  unfold isDirectory
  rcases h : t.stat? path with e | ⟨place, node⟩
  · simp
  · cases node <;> simp

theorem getD_of_stat? (h : t.stat? path = .ok (place, node)) :
    (t.node? place).getD .directory = node := by
  obtain ⟨-, hleads⟩ := destination_eq_ok_iff.1 (stat?_eq_ok_iff.1 h)
  exact hleads.node?_eq.1

/-- What a path leads to is a node of the tree, but for a working directory that is missing. -/
theorem node?_of_stat? (h : t.stat? path = .ok (place, node)) (hne : node ≠ .directory) :
    t.node? place = some node := by
  have hend := getD_of_stat? h
  cases hplace : t.node? place with
  | some node' => rw [hplace] at hend; exact congrArg some hend
  | none => rw [hplace] at hend; exact absurd hend.symm hne

theorem node?_of_isDirectory (hsolid : t.Solid t.workingDir)
    (h : t.stat? path = .ok (place, .directory)) : t.node? place = some .directory := by
  obtain ⟨-, hleads⟩ := destination_eq_ok_iff.1 (stat?_eq_ok_iff.1 h)
  obtain ⟨hend, hthere⟩ := hleads.node?_eq
  obtain ⟨node, hnode⟩ := hthere (solid_startOf hsolid path)
  rw [hnode] at hend ⊢
  exact congrArg some hend

theorem node?_of_vacant (h : t.destination follow path = .ok (.vacant q slash)) :
    t.node? q = none :=
  (destination_eq_ok_iff.1 h).2.node?_eq_none

/-! ## Later trees -/

theorem Grows.stat? {node' : Node} (hg : t.Grows t') (h : t.stat? path = .ok (place, node))
    (halike : Alike node node') (hend : (t'.node? place).getD .directory = node') :
    t'.stat? path = .ok (place, node') := by
  obtain ⟨hlawful, hleads⟩ := destination_eq_ok_iff.1 (stat?_eq_ok_iff.1 h)
  rw [stat?_eq_ok_iff, destination_eq_ok_iff, startOf_eq hg.workingDir]
  exact ⟨hlawful, hleads.grows hg halike hend⟩

theorem Extends.stat? (he : t.Extends t') (h : t.stat? path = .ok (place, node))
    (hne : node ≠ .directory) : t'.stat? path = .ok (place, node) := by
  have hnode := he.node (node?_of_stat? h hne)
  exact he.grows.stat? h (.same node) (by rw [hnode]; rfl)

theorem Grows.isDirectory (hg : t.Grows t') (hsolid : t.Solid t.workingDir)
    (h : t.isDirectory path = true) : t'.isDirectory path = true := by
  obtain ⟨place, hstat⟩ := isDirectory_iff.1 h
  obtain ⟨node', hnode', halike⟩ := hg.node (node?_of_isDirectory hsolid hstat)
  obtain rfl := halike.directory_iff.1 rfl
  exact isDirectory_iff.2 ⟨place, hg.stat? hstat halike (by rw [hnode']; rfl)⟩

/-- What is put at the end of a path that led to nothing is found there. -/
theorem stat?_of_vacant (he : t.Extends t') (h : t.destination follow path = .ok (.vacant q slash))
    (hn : t'.node? q = some n) (hends : Ends slash n) : t'.stat? path = .ok (q, n) := by
  obtain ⟨hlawful, hleads⟩ := destination_eq_ok_iff.1 h
  rw [stat?_eq_ok_iff, destination_eq_ok_iff, startOf_eq he.workingDir]
  exact ⟨hlawful, hleads.of_vacant he hn hends⟩

theorem vacant_ne_nil (h : t.destination follow path = .ok (.vacant q slash)) : q ≠ [] := by
  apply ne_nil_of_node? (t := t)
  simp [node?_of_vacant h]

theorem extends_put_of_vacant (h : t.destination follow path = .ok (.vacant q slash)) (n : Node) :
    t.Extends (t.put q n) :=
  extends_put (node?_of_vacant h) n

theorem stat?_put_of_vacant (h : t.destination follow path = .ok (.vacant q slash))
    (hends : Ends slash n) : (t.put q n).stat? path = .ok (q, n) :=
  stat?_of_vacant (extends_put_of_vacant h n) h (node?_put_self t n (vacant_ne_nil h)) hends

/-- Something is there, be it a link that leads nowhere. -/
def Occupied (t : FileTree) (path : Text) : Prop :=
  ∃ place node, t.destination false path = .ok (.found place node)

theorem occupied_of_pathExists (h : t.pathExists path = true) : t.Occupied path := by
  obtain ⟨place, node, hstat⟩ := pathExists_iff.1 h
  obtain ⟨hlawful, hleads⟩ := destination_eq_ok_iff.1 (stat?_eq_ok_iff.1 hstat)
  obtain ⟨q, n, hfound⟩ := hleads.unfollowed
  exact ⟨q, n, destination_eq_ok_iff.2 ⟨hlawful, hfound⟩⟩

/-- A new file is made only where nothing is. -/
theorem pathExists_of_vacant (h : t.destination false path = .ok (.vacant q slash)) :
    t.pathExists path = false := by
  cases hthere : t.pathExists path with
  | false => rfl
  | true =>
    obtain ⟨place, node, hfound⟩ := occupied_of_pathExists hthere
    rw [h] at hfound
    cases hfound

/-! ## Contents -/

theorem read?_of_file (h : t.stat? path = .ok (place, .file content runnable)) :
    t.read? path = .ok content := by
  rw [read?, h]
  rfl

theorem exists_stat?_of_read? (h : t.read? path = .ok content) :
    ∃ place node, t.stat? path = .ok (place, node) ∧ node ≠ .directory := by
  rw [read?, bind_eq_ok_iff] at h
  obtain ⟨⟨place, node⟩, hstat, h⟩ := h
  refine ⟨place, node, hstat, ?_⟩
  rintro rfl
  cases h

theorem read?_eq_error_iff :
    t.read? path = .error e ↔ t.stat? path = .error e ∨
      (e = .isADirectory ∧ ∃ place, t.stat? path = .ok (place, .directory)) ∨
      e = .noDevice ∧ ∃ place, t.stat? path = .ok (place, .device .absent) := by
  unfold read?
  cases t.stat? path with
  | error e' => simp [bind, Except.bind]
  | ok found =>
    obtain ⟨place, node⟩ := found
    cases node with
    | device kind => cases kind <;> simp [bind, Except.bind, pure, Except.pure, eq_comm]
    | _ => simp [bind, Except.bind, pure, Except.pure, eq_comm]

theorem readText?_eq_error_iff :
    t.readText? path = .error e ↔ t.read? path = .error e ∨
      e = .notText ∧ ∃ content, t.read? path = .ok content ∧ Utf8.decode? content = none := by
  unfold readText?
  cases t.read? path with
  | error e' => simp [bind, Except.bind]
  | ok content =>
    cases hdecode : Utf8.decode? content <;>
      simp [bind, Except.bind, pure, Except.pure, hdecode, eq_comm]

theorem pathExists_of_readText? {text : Text} (h : t.readText? path = .ok text) :
    t.pathExists path = true := by
  rw [readText?, bind_eq_ok_iff] at h
  obtain ⟨content, hread, -⟩ := h
  obtain ⟨place, node, hstat, -⟩ := exists_stat?_of_read? hread
  exact pathExists_iff.2 ⟨place, node, hstat⟩

/-! ## Making directories -/

/-- Directories were made where nothing was. -/
structure Furnishes (t t' : FileTree) : Prop where
  workingDir : t'.workingDir = t.workingDir
  node : ∀ place, t'.node? place = t.node? place ∨
    t.node? place = none ∧ t'.node? place = some .directory

theorem Furnishes.refl (t : FileTree) : t.Furnishes t :=
  ⟨rfl, fun _ => .inl rfl⟩

theorem Furnishes.trans {t'' : FileTree} (h : t.Furnishes t') (h' : t'.Furnishes t'') :
    t.Furnishes t'' := by
  refine ⟨h'.workingDir.trans h.workingDir, ?_⟩
  intro place
  rcases h'.node place with hsame' | ⟨hnone', hdirectory⟩
  · rw [hsame']
    exact h.node place
  · rcases h.node place with hsame | ⟨-, hmade⟩
    · exact .inr ⟨hsame.symm.trans hnone', hdirectory⟩
    · rw [hmade] at hnone'
      cases hnone'

theorem Furnishes.extends (h : t.Furnishes t') : t.Extends t' := by
  refine ⟨h.workingDir, ?_⟩
  intro place node hnode
  rcases h.node place with hsame | ⟨hnone, -⟩
  · rw [hsame, hnode]
  · rw [hnone] at hnode
    cases hnode

/-- What is no directory was there before. -/
theorem Furnishes.node?_eq (h : t.Furnishes t') (hnode : t'.node? place = some node)
    (hne : node ≠ .directory) : t.node? place = some node := by
  rcases h.node place with hsame | ⟨-, hdirectory⟩
  · rw [← hsame, hnode]
  · exact absurd (Option.some.inj (hnode.symm.trans hdirectory)) hne

theorem Furnishes.node?_eq_none (h : t.Furnishes t') (hnode : t'.node? place = none) :
    t.node? place = none := by
  rcases h.node place with hsame | ⟨hnone, -⟩
  · rw [← hsame, hnode]
  · exact hnone

/-- What a path led to, it leads to among the new directories. -/
theorem Furnishes.stat? (hf : t.Furnishes t') (h : t.stat? path = .ok (place, node)) :
    t'.stat? path = .ok (place, node) := by
  refine hf.extends.grows.stat? h (.same node) ?_
  have hend := getD_of_stat? h
  rcases hf.node place with hsame | ⟨hnone, hdirectory⟩
  · rw [hsame, hend]
  · rw [hnone] at hend
    rw [hdirectory, ← hend]
    rfl

theorem Furnishes.pathExists_eq_false (hf : t.Furnishes t') (h : t'.pathExists path = false) :
    t.pathExists path = false := by
  cases hthere : t.pathExists path with
  | false => rfl
  | true =>
    obtain ⟨place, node, hstat⟩ := pathExists_iff.1 hthere
    have hstill := pathExists_iff.2 ⟨place, node, hf.stat? hstat⟩
    rw [h] at hstill
    cases hstill

theorem furnishes_put (h : t.node? place = none) : t.Furnishes (t.put place .directory) := by
  refine ⟨put_workingDir t place _, ?_⟩
  intro q
  by_cases hq : q = place
  · subst hq
    exact .inr ⟨h, node?_put_self t _ (ne_nil_of_node? (t := t) (by simp [h]))⟩
  · exact .inl (node?_put_of_ne t _ hq)

theorem makeDir?_eq_ok (h : t.makeDir? path = .ok t') :
    t.Furnishes t' ∧ t'.isDirectory path = true := by
  rw [makeDir?, bind_eq_ok_iff] at h
  obtain ⟨d, hd, h⟩ := h
  cases d with
  | found => cases h
  | vacant place slash =>
    cases h
    exact ⟨furnishes_put (node?_of_vacant hd),
      isDirectory_iff.2 ⟨place, stat?_put_of_vacant hd (.inl rfl)⟩⟩

theorem makeDir?_of_isDirectory (h : t.isDirectory path = true) :
    t.makeDir? path = .error .alreadyExists := by
  obtain ⟨place, hstat⟩ := isDirectory_iff.1 h
  obtain ⟨q, n, hfound⟩ := occupied_of_pathExists (pathExists_iff.2 ⟨place, _, hstat⟩)
  rw [makeDir?, hfound]
  rfl

/-- All that lies in no other place is there in the end, and the innermost directory above all. -/
theorem makeMissing?_eq_ok {paths : List Text} (h : t.makeMissing? paths = .ok t') :
    t.Furnishes t' ∧ ∀ path ∈ paths.head?, t'.isDirectory path = true := by
  induction paths generalizing t' with
  | nil =>
    cases h
    exact ⟨.refl t, by simp⟩
  | cons path outer ih =>
    simp only [makeMissing?] at h
    simp only [List.head?_cons, Option.mem_some_iff, forall_eq']
    split at h
    · -- it could be made at once
      rename_i hmade
      cases h
      exact makeDir?_eq_ok hmade
    · -- what it lies in was missing, and is made first
      split at h
      · cases h
      · rename_i t₁ houter
        have hfurnished := (ih houter).1
        split at h
        · rename_i hmade
          cases h
          obtain ⟨hmore, hdirectory⟩ := makeDir?_eq_ok hmade
          exact ⟨hfurnished.trans hmore, hdirectory⟩
        · split at h
          · rename_i hthere
            cases h
            exact ⟨hfurnished, hthere.2⟩
          · cases h
    · split at h
      · rename_i hthere
        cases h
        exact ⟨.refl t, hthere.2⟩
      · cases h

theorem makeMissing?_of_isDirectory (outer : List Text) (h : t.isDirectory path = true) :
    t.makeMissing? (path :: outer) = .ok t := by
  simp [makeMissing?, makeDir?_of_isDirectory h, h]

theorem makeDirs?_furnishes (h : t.makeDirs? path = .ok t') : t.Furnishes t' :=
  (makeMissing?_eq_ok h).1

/-- Once a directory was made, there is nothing left to do, whatever files were written since. -/
theorem makeDirs?_again (hsolid : t'.Solid t'.workingDir) (h : t.makeDirs? path = .ok t')
    {t'' : FileTree} (hg : t'.Grows t'') : t''.makeDirs? path = .ok t'' := by
  obtain ⟨-, hdirectory⟩ := makeMissing?_eq_ok h
  -- the innermost directory is tried first, and no other is looked at once it is there
  unfold makeDirs? at h ⊢
  cases hpaths : ancestors (path.length + 1) path with
  | nil => rfl
  | cons inner outer =>
    refine makeMissing?_of_isDirectory outer (hg.isDirectory hsolid ?_)
    exact hdirectory inner (by simp [hpaths])

/-! ## Writing files -/

/-- A copy to a place where nothing is makes a file of the same content there. -/
theorem copy?_of_free (h : t.copy? path target = .ok t') (hfree : t.pathExists target = false) :
    ∃ place content runnable q, t.stat? path = .ok (place, .file content runnable) ∧
      t.destination true target = .ok (.vacant q false) ∧
      t' = t.put q (.file content runnable) := by
  rw [copy?, bind_eq_ok_iff] at h
  obtain ⟨⟨place, node⟩, hstat, h⟩ := h
  cases node with
  | file content runnable =>
    obtain ⟨d, hd, h⟩ := bind_eq_ok_iff.1 h
    cases d with
    | found q n =>
      -- something would be there
      have hthere := pathExists_iff.2 ⟨q, n, stat?_eq_ok_iff.2 hd⟩
      rw [hfree] at hthere
      cases hthere
    | vacant q slash =>
      cases slash with
      | true => cases h
      | false =>
        cases h
        exact ⟨place, content, runnable, q, hstat, hd, rfl⟩
  | directory => cases h
  | link => cases h
  | device => cases h
  | program => cases h

theorem write?_of_file (h : t.stat? path = .ok (place, .file content runnable)) (new : Bytes) :
    t.write? path new = .ok (t.put place (.file new runnable)) := by
  rw [write?, stat?_eq_ok_iff.1 h]
  rfl

theorem createNew?_eq_ok (h : t.createNew? path content = .ok t') :
    ∃ q, t.destination false path = .ok (.vacant q false) ∧ t' = t.put q (.file content false) := by
  rw [createNew?, bind_eq_ok_iff] at h
  obtain ⟨d, hd, h⟩ := h
  cases d with
  | found => cases h
  | vacant q slash =>
    cases slash with
    | true => cases h
    | false => cases h; exact ⟨q, hd, rfl⟩

theorem createNew?_of_occupied (h : t.Occupied path) :
    t.createNew? path content =
      .error (if path.getLast? = some '/' then .isADirectory else .alreadyExists) := by
  obtain ⟨q, n, hfound⟩ := h
  rw [createNew?, hfound]
  rfl

theorem walkParts_ne_alreadyExists {jump : Place → List Text → Except IoError Destination}
    (hjump : ∀ place todo, jump place todo ≠ .error .alreadyExists) (place : Place)
    (todo : List Text) : t.walkParts follow jump place todo ≠ .error .alreadyExists := by
  fun_induction walkParts t follow jump place todo with
  | case2 _ _ _ _ ih => exact ih
  | case3 _ _ _ ih => exact ih
  | case7 _ _ _ _ _ _ _ ih => exact ih
  | case9 => exact hjump _ _
  | _ =>
    intro h
    cases h

theorem walk_ne_alreadyExists (t : FileTree) (follow : Bool) (links : Nat) (place : Place)
    (todo : List Text) : t.walk follow links place todo ≠ .error .alreadyExists := by
  induction links generalizing place todo with
  | zero => exact walkParts_ne_alreadyExists (fun _ _ hjump => by cases hjump) place todo
  | succ links ih => exact walkParts_ne_alreadyExists ih place todo

/-- A new file is refused for being there already only if something is there. -/
theorem occupied_of_createNew? (h : t.createNew? path content = .error .alreadyExists) :
    t.Occupied path ∧ path.getLast? ≠ some '/' := by
  unfold createNew? at h
  cases hd : t.destination false path with
  | error e =>
    rw [hd] at h
    obtain rfl : e = .alreadyExists := Except.error.inj h
    unfold destination at hd
    split at hd
    · cases hd
    split at hd
    · cases hd
    split at hd
    · cases hd
    · exact absurd hd (walk_ne_alreadyExists t _ _ _ _)
  | ok d =>
    rw [hd] at h
    cases d with
    | vacant q slash => cases slash <;> cases h
    | found q n =>
      refine ⟨⟨q, n, hd⟩, ?_⟩
      intro hslash
      have hother : (if path.getLast? = some '/' then IoError.isADirectory else .alreadyExists) =
          .alreadyExists := Except.error.inj h
      rw [if_pos hslash] at hother
      cases hother

end FileTree
end ContractAssist
