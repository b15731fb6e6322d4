import ContractAssist.Proofs.FileTree.Request
import ContractAssist.Settings.Establish

/-!
# Establish — writing the settings file loses no data

A settings file is written in several requests, each of which may be refused.  What was there before
is there afterwards, but for the file that was overwritten, and that one is in its backup.

1. `Storage.look_eq` and `Storage.change_eq` say what one request does, `Storage.refusal?` which one
   is refused;
2. `backupPath_free`: a free name is found, if there is one and no look at a name before it is
   refused;
3. `Course` has the ways that writing the file can go, `establish_course` says that there are no
   others, and all that follows is by cases of it;
4. `Faithful` says what is kept, and `establish_faithful` that it is, and that a second call finds
   nothing left to do.
-/

namespace ContractAssist

namespace Storage

variable {s : Storage}

def refusal? (s : Storage) (n : Nat) : Option IoError :=
  s.refusals[n]?.join

def next (s : Storage) (tree : FileTree) : Storage :=
  ⟨tree, s.refusals.tail⟩

@[simp] theorem tree_next (s : Storage) (tree : FileTree) : (s.next tree).tree = tree := rfl

@[simp] theorem refusal?_next (s : Storage) (tree : FileTree) (n : Nat) :
    (s.next tree).refusal? n = s.refusal? (n + 1) := by
  simp [refusal?, next]

theorem mem_refusals_of_next {tree : FileTree} {e : Option IoError}
    (h : e ∈ (s.next tree).refusals) : e ∈ s.refusals :=
  List.mem_of_mem_tail h

theorem mem_refusals_of_refusal? {n : Nat} {e : IoError} (h : s.refusal? n = some e) :
    some e ∈ s.refusals :=
  List.mem_of_getElem? (Option.join_eq_some_iff.1 h)

theorem look_eq (s : Storage) (see : FileTree → Bool) :
    s.look see = ((s.refusal? 0).isNone && see s.tree, s.next s.tree) := by
  obtain ⟨tree, refusals⟩ := s
  cases refusals with
  | nil => rfl
  | cons refusal others => cases refusal <;> rfl

theorem change_eq (s : Storage) (request : FileTree → Except IoError FileTree) :
    s.change request =
      match s.refusal? 0 with
      | some e => (.error e, s.next s.tree)
      | none =>
        match request s.tree with
        | .ok tree => (.ok (), s.next tree)
        | .error e => (.error e, s.next s.tree) := by
  obtain ⟨tree, refusals⟩ := s
  cases refusals with
  | nil => rfl
  | cons refusal others => cases refusal <;> rfl

theorem change_ok {s' : Storage} {request : FileTree → Except IoError FileTree}
    (h : s.change request = (.ok (), s')) :
    ∃ tree, request s.tree = .ok tree ∧ s' = s.next tree := by
  rw [change_eq] at h
  split at h
  · cases h
  · split at h
    · rename_i tree hrequest
      cases h
      exact ⟨tree, hrequest, rfl⟩
    · cases h

theorem change_error {s' : Storage} {request : FileTree → Except IoError FileTree} {e : IoError}
    (h : s.change request = (.error e, s')) :
    s' = s.next s.tree ∧ (request s.tree = .error e ∨ some e ∈ s.refusals) := by
  rw [change_eq] at h
  split at h
  · rename_i hrefusal
    cases h
    exact ⟨rfl, .inr (mem_refusals_of_refusal? hrefusal)⟩
  · split at h
    · cases h
    · rename_i hrequest
      cases h
      exact ⟨rfl, .inl hrequest⟩

end Storage

namespace Settings

variable {path : Text} {time process : Nat} {s : Storage} {t t' : FileTree}

/-! ## The search for a free name -/

/-- A free name can be found: there is one, and no look at the names before it is refused. -/
structure Searchable (path : Text) (time : Nat) (s : Storage) : Prop where
  free : ∃ n < backupNames, s.tree.pathExists (backupCandidate path time n) = false
  seen : ∀ n, (∀ m ≤ n, s.tree.pathExists (backupCandidate path time m) = true) →
    s.refusal? n = none

theorem freeBackup_tree (path : Text) (time left n : Nat) (s : Storage) :
    (freeBackup path time left n s).2.tree = s.tree := by
  induction left generalizing n s with
  | zero => rfl
  | succ left ih =>
    simp only [freeBackup, Storage.look_eq]
    split
    · rename_i hlook
      obtain ⟨-, rfl⟩ := Prod.mk.inj hlook
      exact ih (n + 1) _
    · rename_i hlook
      obtain ⟨-, rfl⟩ := Prod.mk.inj hlook
      rfl

theorem freeBackup_free {left n : Nat}
    (hfree : ∃ k < left, s.tree.pathExists (backupCandidate path time (n + k)) = false)
    (hseen : ∀ k, (∀ m ≤ k, s.tree.pathExists (backupCandidate path time (n + m)) = true) →
      s.refusal? k = none) :
    ∃ candidate, (freeBackup path time left n s).1 = some candidate ∧
      s.tree.pathExists candidate = false := by
  induction left generalizing n s with
  | zero =>
    obtain ⟨k, hk, -⟩ := hfree
    exact absurd hk (Nat.not_lt_zero k)
  | succ left ih =>
    simp only [freeBackup, Storage.look_eq]
    cases htaken : s.tree.pathExists (backupCandidate path time n) with
    | false =>
      simp only [Bool.and_false]
      exact ⟨_, rfl, htaken⟩
    | true =>
      -- the name is taken and is seen to be, so the search goes on behind it
      have hfirst : s.refusal? 0 = none := by
        refine hseen 0 ?_
        intro m hm
        obtain rfl := Nat.le_zero.1 hm
        exact htaken
      simp only [hfirst, Option.isNone_none, Bool.and_true]
      refine ih (s := s.next s.tree) ?_ ?_
      · obtain ⟨k, hk, hfree⟩ := hfree
        cases k with
        | zero =>
          rw [Nat.add_zero, htaken] at hfree
          cases hfree
        | succ k => exact ⟨k, Nat.lt_of_succ_lt_succ hk, by rwa [Nat.add_right_comm]⟩
      · intro k hk
        rw [Storage.refusal?_next]
        refine hseen (k + 1) ?_
        intro m hm
        cases m with
        | zero => exact htaken
        | succ m =>
          have hnext := hk m (Nat.le_of_succ_le_succ hm)
          rwa [Nat.add_right_comm] at hnext

theorem backupPath_free (h : Searchable path time s) (process : Nat) :
    s.tree.pathExists (backupPath path time process s).1 = false ∧
      (backupPath path time process s).2.tree = s.tree := by
  obtain ⟨candidate, hcandidate, hfree⟩ := freeBackup_free (n := 0) (by simpa using h.free)
    (by simpa using h.seen)
  have htree := freeBackup_tree path time backupNames 0 s
  unfold backupPath
  split
  · rename_i found s' hsearch
    rw [hsearch] at hcandidate htree
    cases hcandidate
    exact ⟨hfree, htree⟩
  · rename_i s' hsearch
    rw [hsearch] at hcandidate
    cases hcandidate

/-! ## The ways it can go -/

/-- Something is at the path that a new file is refused for. -/
def Settled (t : FileTree) (path : Text) : Prop :=
  t.Occupied path ∧ (t.pathExists path = true ∨ path.getLast? ≠ some '/')

/-- A file that a path leads to can be copied to a free place that another path leads to. -/
structure BacksUp (t : FileTree) (path backup : Text) (place q : Place) (former : Bytes)
    (runnable : Bool) : Prop where
  source : t.stat? path = .ok (place, .file former runnable)
  target : t.destination true backup = .ok (.vacant q false)

/-- What becomes of a tree and of the call, once the directory of the file is there.  A cause for a
refusal is `genuine` if a file is said to be there already only when it is. -/
inductive Course (path : Text) (genuine : Prop) (t : FileTree) :
    FileTree → Except SettingsError Established → Prop where
  | failed {e : SettingsError} : Course path genuine t t (.error e)
  | alreadyThere : (genuine → Settled t path) → Course path genuine t t (.ok (.alreadyThere path))
  | begun {q : Place} {e : SettingsError} : t.destination false path = .ok (.vacant q false) →
      Course path genuine t (t.put q (.file [] false)) (.error e)
  | created {q : Place} : t.destination false path = .ok (.vacant q false) →
      Course path genuine t ((t.put q (.file [] false)).put q (.file templateBytes false))
        (.ok (.created path))
  | copied {backup : Text} {place q : Place} {former : Bytes} {runnable : Bool}
      {e : SettingsError} : BacksUp t path backup place q former runnable →
      Course path genuine t (t.put q (.file former runnable)) (.error e)
  | overwritten {backup : Text} {place q : Place} {former : Bytes} {runnable : Bool} :
      BacksUp t path backup place q former runnable → t.pathExists backup = false →
      Course path genuine t
        ((t.put q (.file former runnable)).put place (.file templateBytes runnable))
        (.ok (.overwritten path backup))

variable {genuine : Prop} {force : Bool}

theorem overwrite_course (h : Searchable path time s) :
    Course path genuine s.tree (overwrite path time process s).2.tree
      (overwrite path time process s).1 := by
  obtain ⟨hfree, htree⟩ := backupPath_free h process
  unfold overwrite
  rcases hbackup : backupPath path time process s with ⟨backup, s₁⟩
  rw [hbackup] at hfree htree
  simp only at hfree htree ⊢
  split
  · -- the copy failed
    rename_i e s₂ hcopy
    obtain ⟨rfl, -⟩ := Storage.change_error hcopy
    rw [Storage.tree_next, htree]
    exact .failed
  · rename_i s₂ hcopy
    obtain ⟨t₂, hcopied, rfl⟩ := Storage.change_ok hcopy
    rw [htree] at hcopied
    obtain ⟨place, former, runnable, q, hstat, hvacant, rfl⟩ := FileTree.copy?_of_free hcopied hfree
    split
    · -- there is a backup, but the file was not written
      rename_i e s₃ hwrite
      obtain ⟨rfl, -⟩ := Storage.change_error hwrite
      exact .copied ⟨hstat, hvacant⟩
    · rename_i s₃ hwrite
      obtain ⟨t₃, hwritten, rfl⟩ := Storage.change_ok hwrite
      -- with its copy beside it, the path leads to the same file
      have hbeside := FileTree.extends_put_of_vacant hvacant (.file former runnable)
      have hstat₂ := hbeside.stat? hstat nofun
      rw [Storage.tree_next, FileTree.write?_of_file hstat₂] at hwritten
      cases hwritten
      exact .overwritten ⟨hstat, hvacant⟩ hfree

theorem create_course (hgenuine : genuine → some .alreadyExists ∉ s.refusals) :
    Course path genuine s.tree (create path s).2.tree (create path s).1 := by
  unfold create
  split
  · rename_i s₁ hcreate
    obtain ⟨rfl, hcause⟩ := Storage.change_error hcreate
    refine .alreadyThere ?_
    intro hg
    -- the tree itself says so, since no refusal does
    rcases hcause with hrequest | hrefused
    · obtain ⟨hoccupied, hslash⟩ := FileTree.occupied_of_createNew? hrequest
      exact ⟨hoccupied, .inr hslash⟩
    · exact absurd hrefused (hgenuine hg)
  · rename_i e s₁ _ hcreate
    obtain ⟨rfl, -⟩ := Storage.change_error hcreate
    exact .failed
  · rename_i s₁ hcreate
    obtain ⟨t₁, hcreated, rfl⟩ := Storage.change_ok hcreate
    obtain ⟨q, hvacant, rfl⟩ := FileTree.createNew?_eq_ok hcreated
    split
    · rename_i e s₂ hwrite
      obtain ⟨rfl, -⟩ := Storage.change_error hwrite
      exact .begun hvacant
    · rename_i s₂ hwrite
      obtain ⟨t₂, hwritten, rfl⟩ := Storage.change_ok hwrite
      have hstat := FileTree.stat?_put_of_vacant hvacant (.inr ⟨rfl, [], false, rfl⟩)
      rw [Storage.tree_next, FileTree.write?_of_file hstat] at hwritten
      cases hwritten
      exact .created hvacant

/-- Something is seen at the path when its directory is there. -/
def sighted (path : Text) (s : Storage) : Bool :=
  ((makeParent path s).2.look fun t => t.pathExists path).1

def sought (path : Text) (s : Storage) : Storage :=
  ((makeParent path s).2.look fun t => t.pathExists path).2

theorem makeParent_refusals {e : Option IoError} (h : e ∈ (makeParent path s).2.refusals) :
    e ∈ s.refusals := by
  unfold makeParent at h
  split at h
  · exact h
  · rw [Storage.change_eq] at h
    split at h
    · exact Storage.mem_refusals_of_next h
    · split at h
      · exact Storage.mem_refusals_of_next h
      · exact Storage.mem_refusals_of_next h

theorem establish_course (process : Nat)
    (h : force = true → sighted path s = true → Searchable path time (sought path s)) :
    Course path (some .alreadyExists ∉ s.refusals) (makeParent path s).2.tree
      (establish path force time process s).2.tree (establish path force time process s).1 := by
  unfold establish
  unfold sighted sought at h
  have hrefusals : some .alreadyExists ∉ s.refusals →
      some .alreadyExists ∉ (makeParent path s).2.refusals :=
    fun hnot hmem => hnot (makeParent_refusals hmem)
  rcases hparent : makeParent path s with ⟨e | ⟨⟩, s₁⟩
  · exact .failed
  rw [hparent] at h hrefusals
  simp only [Storage.look_eq] at h ⊢
  split
  · -- a look that is refused also leads here, so nothing is known about the path
    rename_i s₂ hlook
    obtain ⟨-, rfl⟩ := Prod.mk.inj hlook
    exact create_course fun hnot hmem => hrefusals hnot (Storage.mem_refusals_of_next hmem)
  · rename_i s₂ hlook
    obtain ⟨hthere, rfl⟩ := Prod.mk.inj hlook
    split
    · rename_i hforce
      exact overwrite_course (h hforce hthere)
    · refine .alreadyThere fun _ => ?_
      have hexists := (Bool.and_eq_true_iff.1 hthere).2
      exact ⟨FileTree.occupied_of_pathExists hexists, .inl hexists⟩

/-! ## What is kept -/

theorem makeParent_furnishes (path : Text) (s : Storage) :
    s.tree.Furnishes (makeParent path s).2.tree := by
  unfold makeParent
  split
  · exact .refl s.tree
  · rename_i parent _
    rcases hchange : s.change fun t => t.makeDirs? parent with ⟨e | ⟨⟩, s'⟩
    · obtain ⟨rfl, -⟩ := Storage.change_error hchange
      exact .refl s.tree
    · obtain ⟨tree, hmade, rfl⟩ := Storage.change_ok hchange
      exact FileTree.makeDirs?_furnishes hmade

/-- What is kept of a tree by a call with this result. -/
structure Faithful (path : Text) (t t' : FileTree) (result : Except SettingsError Established) :
    Prop where
  -- what was there is there, but for a file that was overwritten
  kept : ∀ place node, t.node? place = some node → t'.node? place = some node ∨
    ∃ backup former runnable, result = .ok (.overwritten path backup) ∧
      node = .file former runnable ∧ t'.stat? path = .ok (place, .file templateBytes runnable)
  -- a file that was overwritten is now in a backup, where nothing was
  overwritten : ∀ p backup, result = .ok (.overwritten p backup) →
    p = path ∧ t.pathExists backup = false ∧ ∃ place former runnable,
      t.node? place = some (.file former runnable) ∧
      (∀ q node, t.stat? path = .ok (q, node) → q = place ∧ node = .file former runnable) ∧
      t'.stat? path = .ok (place, .file templateBytes runnable) ∧ t'.read? backup = .ok former
  -- a file that was made is the template, where nothing was
  created : ∀ p, result = .ok (.created p) → p = path ∧ t.pathExists path = false ∧
    ∃ place, t.node? place = none ∧ t'.stat? path = .ok (place, .file templateBytes false)
  -- if nothing was written, the path leads to what it led to
  led : ∀ place node, (∀ p, result ≠ .ok (.created p)) →
    (∀ p backup, result ≠ .ok (.overwritten p backup)) →
    t.stat? path = .ok (place, node) → t'.stat? path = .ok (place, node)
  -- if nothing was written, it leads to nothing new but a directory that was made, or, after an
  -- error, an empty file
  leads : ∀ place node, (∀ p, result ≠ .ok (.created p)) →
    (∀ p backup, result ≠ .ok (.overwritten p backup)) →
    t'.stat? path = .ok (place, node) → t.node? place = some node ∨
      t.node? place = none ∧ (node = .directory ∨
        node = .file [] false ∧ t.pathExists path = false ∧ ∃ e, result = .error e)

/-! ## The trees in which a file was written -/

theorem extends_created {q : Place} (h : t.destination false path = .ok (.vacant q false)) :
    t.Extends ((t.put q (.file [] false)).put q (.file templateBytes false)) := by
  refine ⟨by simp, ?_⟩
  intro place node hnode
  have hne := FileTree.ne_of_node? hnode (FileTree.node?_of_vacant h)
  rw [FileTree.node?_put_of_ne _ _ hne, FileTree.node?_put_of_ne _ _ hne, hnode]

theorem stat?_created {q : Place} (h : t.destination false path = .ok (.vacant q false)) :
    ((t.put q (.file [] false)).put q (.file templateBytes false)).stat? path =
      .ok (q, .file templateBytes false) := by
  refine FileTree.stat?_of_vacant (extends_created h) h ?_ (.inr ⟨rfl, _, _, rfl⟩)
  exact FileTree.node?_put_self _ _ (FileTree.vacant_ne_nil h)

section BacksUp

variable {backup : Text} {place q : Place} {former : Bytes} {runnable : Bool}

theorem BacksUp.node?_source (h : BacksUp t path backup place q former runnable) :
    t.node? place = some (.file former runnable) :=
  FileTree.node?_of_stat? h.source nofun

theorem BacksUp.place_ne (h : BacksUp t path backup place q former runnable) : place ≠ q :=
  FileTree.ne_of_node? h.node?_source (FileTree.node?_of_vacant h.target)

theorem BacksUp.stat?_copied (h : BacksUp t path backup place q former runnable) :
    (t.put q (.file former runnable)).stat? path = .ok (place, .file former runnable) :=
  (FileTree.extends_put_of_vacant h.target (.file former runnable)).stat? h.source nofun

/-- The file is overwritten once the copy is there. -/
theorem BacksUp.grows (h : BacksUp t path backup place q former runnable) :
    (t.put q (.file former runnable)).Grows
      ((t.put q (.file former runnable)).put place (.file templateBytes runnable)) := by
  apply FileTree.grows_put_file
  rw [FileTree.node?_put_of_ne _ _ h.place_ne]
  exact h.node?_source

theorem BacksUp.stat?_overwritten (h : BacksUp t path backup place q former runnable) :
    ((t.put q (.file former runnable)).put place (.file templateBytes runnable)).stat? path =
      .ok (place, .file templateBytes runnable) := by
  refine h.grows.stat? h.stat?_copied (.files _ _ _ _) ?_
  have hplace : place ≠ [] := FileTree.ne_nil_of_node? (t := t) (by simp [h.node?_source])
  rw [FileTree.node?_put_self _ _ hplace]
  rfl

theorem BacksUp.read?_backup (h : BacksUp t path backup place q former runnable) :
    ((t.put q (.file former runnable)).put place (.file templateBytes runnable)).read? backup =
      .ok former := by
  have hcopied : (t.put q (.file former runnable)).stat? backup = .ok (q, .file former runnable) :=
    FileTree.stat?_put_of_vacant h.target (.inr ⟨rfl, _, _, rfl⟩)
  have hbackup := h.grows.stat? hcopied (.same _) (by
    rw [FileTree.node?_put_of_ne _ _ h.place_ne.symm, FileTree.getD_of_stat? hcopied])
  exact FileTree.read?_of_file hbackup

end BacksUp

variable {result : Except SettingsError Established}

theorem Course.kept (h : Course path genuine t t' result) {place : Place} {node : Node}
    (hnode : t.node? place = some node) :
    t'.node? place = some node ∨
      ∃ backup former runnable, result = .ok (.overwritten path backup) ∧
        node = .file former runnable ∧
          t'.stat? path = .ok (place, .file templateBytes runnable) := by
  cases h with
  | failed => exact .inl hnode
  | alreadyThere => exact .inl hnode
  | begun hvacant => exact .inl ((FileTree.extends_put_of_vacant hvacant _).node hnode)
  | copied hback => exact .inl ((FileTree.extends_put_of_vacant hback.target _).node hnode)
  | created hvacant => exact .inl ((extends_created hvacant).node hnode)
  | @overwritten backup file q former runnable hback =>
    by_cases hplace : place = file
    · subst hplace
      have hfile := hback.node?_source
      rw [hnode] at hfile
      cases hfile
      exact .inr ⟨backup, former, runnable, rfl, rfl, hback.stat?_overwritten⟩
    · refine .inl ?_
      rw [FileTree.node?_put_of_ne _ _ hplace]
      exact (FileTree.extends_put_of_vacant hback.target _).node hnode

/-- Where nothing was written, only a file that was begun or a backup is new. -/
theorem Course.unwritten (h : Course path genuine t t' result)
    (hcreated : ∀ p, result ≠ .ok (.created p))
    (hoverwritten : ∀ p backup, result ≠ .ok (.overwritten p backup)) :
    t'.stat? path = t.stat? path ∨ ∃ q, t.destination false path = .ok (.vacant q false) ∧
      t'.stat? path = .ok (q, .file [] false) ∧ ∃ e, result = .error e := by
  cases h with
  | failed => exact .inl rfl
  | alreadyThere => exact .inl rfl
  | @begun q e hvacant =>
    exact .inr ⟨q, hvacant, FileTree.stat?_put_of_vacant hvacant (.inr ⟨rfl, _, _, rfl⟩), e, rfl⟩
  | copied hback => exact .inl (hback.stat?_copied.trans hback.source.symm)
  | created => exact absurd rfl (hcreated path)
  | overwritten => exact absurd rfl (hoverwritten path _)

theorem faithful_of_course {t₁ : FileTree} (hf : t.Furnishes t₁)
    (h : Course path genuine t₁ t' result) : Faithful path t t' result where
  kept := by
    intro place node hnode
    exact h.kept (hf.extends.node hnode)
  overwritten := by
    rintro p backup rfl
    cases h with
    | @overwritten _ place q former runnable hback hfree =>
      refine ⟨rfl, hf.pathExists_eq_false hfree, place, former, runnable, ?_, ?_,
        hback.stat?_overwritten, hback.read?_backup⟩
      · exact hf.node?_eq hback.node?_source nofun
      · intro q node hstat
        have hsame := (hf.stat? hstat).symm.trans hback.source
        cases hsame
        exact ⟨rfl, rfl⟩
  created := by
    rintro p rfl
    cases h with
    | @created q hvacant =>
      refine ⟨rfl, hf.pathExists_eq_false (FileTree.pathExists_of_vacant hvacant), q, ?_,
        stat?_created hvacant⟩
      exact hf.node?_eq_none (FileTree.node?_of_vacant hvacant)
  led := by
    intro place node hcreated hoverwritten hstat
    have hstat₁ := hf.stat? hstat
    rcases h.unwritten hcreated hoverwritten with hsame | ⟨q, hvacant, -⟩
    · rw [hsame]
      exact hstat₁
    · -- a file is begun only where nothing is
      have hthere := FileTree.pathExists_iff.2 ⟨place, node, hstat₁⟩
      rw [FileTree.pathExists_of_vacant hvacant] at hthere
      cases hthere
  leads := by
    intro place node hcreated hoverwritten hstat
    rcases h.unwritten hcreated hoverwritten with hsame | ⟨q, hvacant, hbegun, hfailed⟩
    · rw [hsame] at hstat
      have hend := FileTree.getD_of_stat? hstat
      rcases hf.node place with hnode | ⟨hnone, hdirectory⟩
      · rw [hnode] at hend
        cases hplace : t.node? place with
        | some node' => rw [hplace] at hend; exact .inl (congrArg some hend)
        | none => rw [hplace] at hend; exact .inr ⟨rfl, .inl hend.symm⟩
      · rw [hdirectory] at hend
        exact .inr ⟨hnone, .inl hend.symm⟩
    · rw [hbegun] at hstat
      cases hstat
      have hmissing := hf.pathExists_eq_false (FileTree.pathExists_of_vacant hvacant)
      exact .inr ⟨hf.node?_eq_none (FileTree.node?_of_vacant hvacant),
        .inr ⟨rfl, hmissing, hfailed⟩⟩

/-! ## A second call -/

theorem create_occupied (h : s.tree.Occupied path) :
    (create path s).2.tree = s.tree ∧
      (path.getLast? ≠ some '/' → s.refusal? 0 = none →
        (create path s).1 = .ok (.alreadyThere path)) := by
  have hrequest : s.tree.createNew? path [] = _ := FileTree.createNew?_of_occupied h
  unfold create
  split
  · rename_i s₁ hcreate
    obtain ⟨rfl, -⟩ := Storage.change_error hcreate
    exact ⟨rfl, fun _ _ => rfl⟩
  · rename_i e s₁ hother hcreate
    obtain ⟨rfl, -⟩ := Storage.change_error hcreate
    refine ⟨rfl, ?_⟩
    intro hslash hgranted
    -- there would be no other cause
    simp only [Storage.change_eq, hgranted, hrequest, if_neg hslash] at hcreate
    exact absurd hcreate.symm fun heq => hother (Except.error.inj (Prod.mk.inj heq).1)
  · rename_i s₁ hcreate
    obtain ⟨tree, hcreated, -⟩ := Storage.change_ok hcreate
    rw [hrequest] at hcreated
    cases hcreated

theorem makeParent_again (hsolid : s.tree.Solid s.tree.workingDir)
    (hmade : (makeParent path s).1 = .ok ()) {s' : Storage}
    (hg : (makeParent path s).2.tree.Grows s'.tree) :
    (makeParent path s').2.tree = s'.tree ∧
      (s'.refusal? 0 = none → (makeParent path s').1 = .ok ()) := by
  have hf := makeParent_furnishes path s
  unfold makeParent at hmade hg hf ⊢
  cases hparent : Path.parent? path with
  | none => exact ⟨rfl, fun _ => rfl⟩
  | some parent =>
    simp only [hparent] at hmade hg hf ⊢
    rcases hchange : s.change fun t => t.makeDirs? parent with ⟨e | ⟨⟩, s₁⟩
    · rw [hchange] at hmade
      cases hmade
    · rw [hchange] at hg hf
      obtain ⟨tree, hdirs, rfl⟩ := Storage.change_ok hchange
      -- the directory is still there, however the tree has grown since
      have hsolid₁ : tree.Solid tree.workingDir :=
        hf.workingDir.symm ▸ hf.extends.grows.solid hsolid
      have hagain := FileTree.makeDirs?_again hsolid₁ hdirs hg
      rw [Storage.change_eq, hagain]
      cases s'.refusal? 0 with
      | some e => exact ⟨rfl, nofun⟩
      | none => exact ⟨rfl, fun _ => rfl⟩

theorem Course.settled (h : Course path genuine t t' result) (hg : genuine)
    {established : Established} (hok : result = .ok established) :
    t.Grows t' ∧ Settled t' path := by
  subst hok
  cases h with
  | alreadyThere hsettled => exact ⟨(FileTree.Extends.refl t).grows, hsettled hg⟩
  | created hvacant =>
    have hthere := FileTree.pathExists_iff.2 ⟨_, _, stat?_created hvacant⟩
    exact ⟨(extends_created hvacant).grows, FileTree.occupied_of_pathExists hthere, .inl hthere⟩
  | overwritten hback =>
    have hthere := FileTree.pathExists_iff.2 ⟨_, _, hback.stat?_overwritten⟩
    -- the copy adds a file, and overwriting replaces the content of another
    have hgrows := (FileTree.extends_put_of_vacant hback.target _).grows_of_grows hback.grows
    exact ⟨hgrows, FileTree.occupied_of_pathExists hthere, .inl hthere⟩

theorem refusal?_of_granted (h : ∀ e, some e ∉ s.refusals) (n : Nat) : s.refusal? n = none := by
  cases hrefusal : s.refusal? n with
  | none => rfl
  | some e => exact absurd (Storage.mem_refusals_of_refusal? hrefusal) (h e)

theorem establish_settled {s' : Storage} (hsettled : Settled s'.tree path)
    (hparent : (makeParent path s').2.tree = s'.tree ∧
      (s'.refusal? 0 = none → (makeParent path s').1 = .ok ())) :
    (establish path false time process s').2.tree = s'.tree ∧
      ((∀ e, some e ∉ s'.refusals) →
        (establish path false time process s').1 = .ok (.alreadyThere path)) := by
  obtain ⟨htree, hmade⟩ := hparent
  have hrefusals {e : Option IoError} (hmem : e ∈ (makeParent path s').2.refusals) :
      e ∈ s'.refusals := makeParent_refusals hmem
  unfold establish
  rcases hstep : makeParent path s' with ⟨e | ⟨⟩, s₁⟩
  · rw [hstep] at htree hmade
    refine ⟨htree, ?_⟩
    intro hgranted
    cases hmade (refusal?_of_granted hgranted 0)
  · rw [hstep] at htree hrefusals
    simp only [Storage.look_eq] at htree hrefusals ⊢
    split
    · rename_i s₂ hlook
      obtain ⟨hmissing, rfl⟩ := Prod.mk.inj hlook
      obtain ⟨hsame, hanswer⟩ := create_occupied (s := s₁.next s₁.tree) (htree ▸ hsettled.1)
      refine ⟨hsame.trans htree, ?_⟩
      intro hgranted
      have hgranted₁ := refusal?_of_granted fun e hmem => hgranted e (hrefusals hmem)
      refine hanswer ?_ ?_
      · -- nothing was overlooked, so the path leads nowhere, and a link is there
        rcases hsettled.2 with hthere | hslash
        · simp [hgranted₁, htree, hthere] at hmissing
        · exact hslash
      · rw [Storage.refusal?_next]
        exact hgranted₁ 1
    · rename_i s₂ hlook
      obtain ⟨-, rfl⟩ := Prod.mk.inj hlook
      exact ⟨htree, fun _ => rfl⟩

theorem makeParent_of_establish {established : Established}
    (h : (establish path force time process s).1 = .ok established) :
    (makeParent path s).1 = .ok () := by
  unfold establish at h
  rcases hparent : makeParent path s with ⟨e | ⟨⟩, s₁⟩
  · rw [hparent] at h
    cases h
  · rfl

/-- Nothing is lost: what was there is kept, or is in a backup, and after a call that succeeded a
second one changes nothing, whatever is refused to it. -/
theorem establish_faithful (path : Text) (force : Bool) (time process : Nat) (s : Storage)
    (h : force = true → sighted path s = true → Searchable path time (sought path s)) :
    Faithful path s.tree (establish path force time process s).2.tree
        (establish path force time process s).1 ∧
      ∀ established, (establish path force time process s).1 = .ok established →
        s.tree.Solid s.tree.workingDir → some .alreadyExists ∉ s.refusals →
        ∀ time' process' s', s'.tree = (establish path force time process s).2.tree →
          (establish path false time' process' s').2.tree = s'.tree ∧
            ((∀ e, some e ∉ s'.refusals) →
              (establish path false time' process' s').1 = .ok (.alreadyThere path)) := by
  have hcourse := establish_course process h
  refine ⟨faithful_of_course (makeParent_furnishes path s) hcourse, ?_⟩
  intro established hok hsolid hgenuine time' process' s' htree
  obtain ⟨hgrows, hsettled⟩ := hcourse.settled hgenuine hok
  rw [← htree] at hgrows hsettled
  exact establish_settled hsettled (makeParent_again hsolid (makeParent_of_establish hok) hgrows)

def backedUp : FileTree :=
  ⟨[([("c.toml" : Text)], .file [1] false), ([("c.toml.5.bak" : Text)], .file [2] false)], []⟩

theorem searchable_backedUp : Searchable "c.toml" 5 (sought "c.toml" ⟨backedUp, []⟩) := by
  have hsought : sought "c.toml" ⟨backedUp, []⟩ = ⟨backedUp, []⟩ := rfl
  rw [hsought]
  refine ⟨⟨1, by decide, rfl⟩, ?_⟩
  intro n _
  rfl

theorem establish_backedUp : (establish "c.toml" true 5 1 ⟨backedUp, []⟩).1 =
    .ok (.overwritten "c.toml" "c.toml.5.1.bak") :=
  rfl

/-- The first name of a backup is taken, and the second one is used.  To call again, with one
refusal or without any, changes nothing. -/
theorem establish_faithful_second :
    let t' := (establish "c.toml" true 5 1 ⟨backedUp, []⟩).2.tree
    Faithful "c.toml" backedUp t' (.ok (.overwritten "c.toml" "c.toml.5.1.bak")) ∧
      (establish "c.toml" false 6 2 ⟨t', []⟩).1 = .ok (.alreadyThere "c.toml") ∧
      (establish "c.toml" false 6 2 ⟨t', []⟩).2.tree = t' ∧
      (establish "c.toml" false 6 2 ⟨t', [none, some .noSpace]⟩).2.tree = t' := by
  intro t'
  obtain ⟨hfaithful, hagain⟩ := establish_faithful "c.toml" true 5 1 ⟨backedUp, []⟩
    fun _ _ => searchable_backedUp
  rw [establish_backedUp] at hfaithful
  have hsolid : backedUp.Solid backedUp.workingDir := .nil backedUp
  have hsecond := hagain _ establish_backedUp hsolid List.not_mem_nil 6 2
  obtain ⟨hsame, hanswer⟩ := hsecond ⟨t', []⟩ rfl
  obtain ⟨hrefused, -⟩ := hsecond ⟨t', [none, some .noSpace]⟩ rfl
  exact ⟨hfaithful, hanswer fun e => List.not_mem_nil, hsame, hrefused⟩

/-- Without the conditions, each of the promises is broken.  A path may come to lead to a file once
its directory is made.  A look at a name that is taken may be refused, and the backup there is lost.
An empty file is left when writing is refused.  A second call may write what a first one did not. -/
theorem establish_unfaithful :
    (¬ ∀ (path : Text) (force : Bool) (time process : Nat) (t : FileTree),
      (∃ n < backupNames, t.pathExists (backupCandidate path time n) = false) →
      (establish path force time process ⟨t, []⟩).1 = .ok (.alreadyThere path) →
      ((establish path force time process ⟨t, []⟩).2.tree.read? path).toOption =
        (t.read? path).toOption) ∧
    (¬ ∀ (path : Text) (force : Bool) (time process : Nat) (s : Storage) (e : SettingsError),
      (∃ n < backupNames, s.tree.pathExists (backupCandidate path time n) = false) →
      (establish path force time process s).1 = .error e →
      ∀ place node, s.tree.node? place = some node →
        (establish path force time process s).2.tree.node? place = some node) ∧
    (¬ ∀ (path : Text) (force : Bool) (time process : Nat) (s : Storage) (e : SettingsError),
      (∃ n < backupNames, s.tree.pathExists (backupCandidate path time n) = false) →
      (establish path force time process s).1 = .error e →
      ((establish path force time process s).2.tree.read? path).toOption =
        (s.tree.read? path).toOption) ∧
    ¬ ∀ (path : Text) (force : Bool) (time process : Nat) (s s' : Storage) (made : Established),
      (∃ n < backupNames, s.tree.pathExists (backupCandidate path time n) = false) →
      (establish path force time process s).1 = .ok made →
      s'.tree = (establish path force time process s).2.tree →
      (establish path false time process s').2.tree = s'.tree := by
  refine ⟨?_, ?_, ?_, ?_⟩
  -- the directory `a` is made as a parent, and only then does the path lead to `b`
  · intro h
    have hled := h "a/../b" false 5 1 ⟨[([("b" : Text)], .file [1] false)], []⟩
      ⟨0, by decide, rfl⟩ rfl
    have hbefore : (FileTree.read? ⟨[([("b" : Text)], .file [1] false)], []⟩ "a/../b").toOption =
        none := rfl
    have hafter : ((establish "a/../b" false 5 1
        ⟨⟨[([("b" : Text)], .file [1] false)], []⟩, []⟩).2.tree.read? "a/../b").toOption =
          some [1] := rfl
    rw [hbefore, hafter] at hled
    cases hled
  -- the look at the first name is refused, so the backup that has this name is overwritten
  · intro h
    have hkept := h "c.toml" true 5 1
      ⟨backedUp, [none, none, some .permissionDenied, none, some .noSpace]⟩ (.io .noSpace)
      ⟨1, by decide, rfl⟩ rfl [("c.toml.5.bak" : Text)] (.file [2] false) rfl
    have hlost : (establish "c.toml" true 5 1
        ⟨backedUp, [none, none, some .permissionDenied, none, some .noSpace]⟩).2.tree.node?
          [("c.toml.5.bak" : Text)] = some (.file [1] false) := rfl
    rw [hlost] at hkept
    cases hkept
  -- the file is created, but there is no space for its content
  · intro h
    have hled := h "c.toml" false 5 1 ⟨⟨[], []⟩, [none, none, none, some .noSpace]⟩ (.io .noSpace)
      ⟨0, by decide, rfl⟩ rfl
    have hbefore : (FileTree.read? ⟨[], []⟩ "c.toml").toOption = none := rfl
    have hafter : ((establish "c.toml" false 5 1
        ⟨⟨[], []⟩, [none, none, none, some .noSpace]⟩).2.tree.read? "c.toml").toOption =
          some [] := rfl
    rw [hbefore, hafter] at hled
    cases hled
  -- a refusal that says the file is there is believed, and the next call creates it
  · intro h
    have hsame := h "c.toml" false 5 1 ⟨⟨[], []⟩, [none, none, some .alreadyExists]⟩
      ⟨⟨[], []⟩, [none, none, none, some .noSpace]⟩ (.alreadyThere "c.toml")
      ⟨0, by decide, rfl⟩ rfl rfl
    have hbegun : (establish "c.toml" false 5 1
        ⟨⟨[], []⟩, [none, none, none, some .noSpace]⟩).2.tree.nodes =
          [([("c.toml" : Text)], .file [] false)] := rfl
    rw [hsame] at hbegun
    cases hbegun

end Settings
end ContractAssist
