import ContractAssist.FileTree.Access

/-!
# Walk — where paths lead, and where they lead after a change

A path is followed from place to place.  What is met on the way decides where it leads, so a change
of the tree matters only to the paths that meet it.

1. `node?_put_self` and `node?_put_of_ne` say what a change of one place does to all places;
2. `Leads` says as a relation where the parts of a path lead, and `walk_eq_ok_iff` that `walk` finds
   just that;
3. `Grows` and `Extends` compare trees: the later one has all that the earlier one has, with other
   contents of files at most, or with the same contents;
4. `Leads.grows`: what a path led to, it leads to in the later tree;
5. `Leads.of_vacant`: a path that led to a free place leads to whatever is put there.
-/

namespace ContractAssist

theorem bind_eq_ok_iff {ε α β : Type} {x : Except ε α} {f : α → Except ε β} {b : β} :
    (x >>= f) = .ok b ↔ ∃ a, x = .ok a ∧ f a = .ok b := by
  cases x with
  | ok a =>
    constructor
    · intro h
      exact ⟨a, rfl, h⟩
    · rintro ⟨a', ha, h⟩
      cases ha
      exact h
  | error e =>
    constructor
    · intro h
      cases h
    · rintro ⟨a', ha, -⟩
      cases ha

namespace FileTree

variable {t t' t'' : FileTree} {place q : Place} {node n : Node}

/-! ## Places -/

theorem node?_of_ne_nil (h : q ≠ []) :
    t.node? q = (t.nodes.find? fun n => n.1 = q).map Prod.snd := by
  simp [node?, h]

/-- At the root there is a directory. -/
theorem ne_nil_of_node? (h : t.node? place ≠ some .directory) : place ≠ [] := by
  rintro rfl
  exact h rfl

theorem ne_of_node? (hn : t.node? q = some n) (h : t.node? place = none) : q ≠ place := by
  rintro rfl
  rw [h] at hn
  cases hn

@[simp] theorem put_workingDir (t : FileTree) (place : Place) (node : Node) :
    (t.put place node).workingDir = t.workingDir := by
  unfold put
  split
  · rfl
  · rfl

theorem node?_put_self (t : FileTree) (node : Node) (h : place ≠ []) :
    (t.put place node).node? place = some node := by
  rw [node?_of_ne_nil h]
  unfold put
  split
  · rename_i hany
    -- the entry that is found is the one that was replaced
    have hsome : (t.nodes.find? fun n => n.1 = place).isSome := by
      rw [List.find?_isSome]
      simpa using hany
    obtain ⟨entry, hentry⟩ := Option.isSome_iff_exists.1 hsome
    have hplace : entry.1 = place := by simpa using List.find?_some hentry
    have hsame : ((fun n : Place × Node => decide (n.1 = place)) ∘
        fun n => if n.1.same place then (place, node) else n) = fun n => decide (n.1 = place) := by
      funext n
      by_cases hn : n.1 = place <;> simp [hn]
    simp only [List.find?_map, hsame, hentry]
    simp [hplace]
  · rename_i hany
    have hnone : t.nodes.find? (fun n => n.1 = place) = none := by
      rw [List.find?_eq_none]
      intro entry hentry hplace
      exact hany (List.any_eq_true.2 ⟨entry, hentry, by simpa using hplace⟩)
    simp [List.find?_append, hnone]

theorem node?_put_of_ne (t : FileTree) (node : Node) (h : q ≠ place) :
    (t.put place node).node? q = t.node? q := by
  by_cases hq : q = []
  · subst hq
    rfl
  rw [node?_of_ne_nil hq, node?_of_ne_nil hq]
  unfold put
  split
  · have hsame : ((fun n : Place × Node => decide (n.1 = q)) ∘
        fun n => if n.1.same place then (place, node) else n) = fun n => decide (n.1 = q) := by
      funext n
      by_cases hn : n.1 = place
      · simp [hn, h.symm]
      · simp [hn]
    simp only [List.find?_map, hsame, Option.map_map]
    cases hfind : t.nodes.find? fun n => n.1 = q with
    | none => rfl
    | some entry =>
      have hplace : entry.1 = q := by simpa using List.find?_some hfind
      simp [hplace, h]
  · simp [List.find?_append, h.symm]

/-! ## Following a path -/

structure Ordinary (name : Text) : Prop where
  ne_idle : ¬ (name = [] ∨ name = ['.'])
  ne_up : name ≠ ['.', '.']
  byteSize_le : Text.byteSize name ≤ nameLimit

/-- Where the parts of a path lead from a place, when `links` links may be followed. -/
inductive Leads (t : FileTree) (follow : Bool) : Nat → Place → List Text → Destination → Prop where
  | here {links place} :
      Leads t follow links place [] (.found place ((t.node? place).getD .directory))
  | idle {links place name rest d} : name = [] ∨ name = ['.'] →
      Leads t follow links place rest d → Leads t follow links place (name :: rest) d
  | up {links place rest d} :
      Leads t follow links place.dropLast rest d →
      Leads t follow links place (['.', '.'] :: rest) d
  | vacant {links place name rest} : Ordinary name → t.node? (place ++ [name]) = none →
      rest.all List.isEmpty = true →
      Leads t follow links place (name :: rest) (.vacant (place ++ [name]) !rest.isEmpty)
  | down {links place name rest d} : Ordinary name →
      t.node? (place ++ [name]) = some .directory →
      Leads t follow links (place ++ [name]) rest d → Leads t follow links place (name :: rest) d
  | link {links place name target} : Ordinary name →
      t.node? (place ++ [name]) = some (.link target) → follow = false →
      Leads t follow links place [name] (.found (place ++ [name]) (.link target))
  | jump {links place name rest target d} : Ordinary name →
      t.node? (place ++ [name]) = some (.link target) → ¬ (rest = [] ∧ follow = false) →
      Leads t follow links (if Path.isAbsolute target then [] else place) (parts target ++ rest) d →
      Leads t follow (links + 1) place (name :: rest) d
  | node {links place name node} : Ordinary name → t.node? (place ++ [name]) = some node →
      node ≠ .directory → (∀ target, node ≠ .link target) →
      Leads t follow links place [name] (.found (place ++ [name]) node)

variable {follow : Bool} {links : Nat} {todo : List Text} {d : Destination} {slash : Bool}

/-- A jump uses up a link. -/
theorem leads_of_walkParts {jump : Place → List Text → Except IoError Destination}
    (hjump : ∀ {place todo d}, jump place todo = .ok d →
      ∃ fewer, links = fewer + 1 ∧ t.Leads follow fewer place todo d)
    (h : t.walkParts follow jump place todo = .ok d) : t.Leads follow links place todo d := by
  fun_induction walkParts t follow jump place todo with
  | case1 => cases h; exact .here
  | case2 _ _ _ hidle ih => exact .idle hidle (ih h)
  | case3 _ _ _ ih => exact .up (ih h)
  | case4 => cases h
  | case5 _ _ _ hidle hup hsize hnone hblank =>
    cases h
    exact .vacant ⟨hidle, hup, Nat.not_lt.1 hsize⟩ hnone hblank
  | case6 => cases h
  | case7 _ _ _ hidle hup hsize hnode ih =>
    exact .down ⟨hidle, hup, Nat.not_lt.1 hsize⟩ hnode (ih h)
  | case8 _ _ _ hidle hup hsize target hnode hlast =>
    obtain ⟨rfl, hfollow⟩ := hlast
    cases h
    exact .link ⟨hidle, hup, Nat.not_lt.1 hsize⟩ hnode (by simpa using hfollow)
  | case9 _ _ _ hidle hup hsize target hnode hlast =>
    obtain ⟨fewer, rfl, hleads⟩ := hjump h
    exact .jump ⟨hidle, hup, Nat.not_lt.1 hsize⟩ hnode (by simpa using hlast) hleads
  | case10 _ _ hidle hup hsize node hdirectory hlink hnode =>
    cases h
    exact .node ⟨hidle, hup, Nat.not_lt.1 hsize⟩ hnode hdirectory fun target => hlink target
  | case11 => cases h

theorem leads_of_walk (h : t.walk follow links place todo = .ok d) :
    t.Leads follow links place todo d := by
  induction links generalizing place todo d with
  | zero => exact leads_of_walkParts (fun hjump => by cases hjump) h
  | succ links ih => exact leads_of_walkParts (fun h => ⟨links, rfl, ih h⟩) h

theorem walk_nil : t.walk follow links place [] =
    .ok (.found place ((t.node? place).getD .directory)) := by
  cases links <;> rfl

theorem walk_idle {name : Text} {rest : List Text} (h : name = [] ∨ name = ['.']) :
    t.walk follow links place (name :: rest) = t.walk follow links place rest := by
  cases links <;> exact if_pos h

theorem walk_up (rest : List Text) : t.walk follow links place (['.', '.'] :: rest) =
    t.walk follow links place.dropLast rest := by
  cases links <;> rfl

/-- The next place on the way is that of an ordinary name. -/
theorem walk_ordinary {name : Text} {rest : List Text} (hname : Ordinary name) :
    t.walk follow links place (name :: rest) =
      match t.node? (place ++ [name]) with
      | none =>
        if rest.all List.isEmpty then .ok (.vacant (place ++ [name]) !rest.isEmpty)
        else .error .notFound
      | some .directory => t.walk follow links (place ++ [name]) rest
      | some (.link target) =>
        if rest = [] ∧ !follow then .ok (.found (place ++ [name]) (.link target))
        else
          match links with
          | 0 => .error .linkLoop
          | links + 1 =>
            t.walk follow links (if Path.isAbsolute target then [] else place)
              (parts target ++ rest)
      | some node =>
        if rest = [] then .ok (.found (place ++ [name]) node) else .error .notADirectory := by
  cases links <;>
    rw [walk, walkParts, if_neg hname.ne_idle, if_neg hname.ne_up,
      if_neg (Nat.not_lt.2 hname.byteSize_le)] <;>
    rfl

theorem Leads.walk_eq (h : t.Leads follow links place todo d) :
    t.walk follow links place todo = .ok d := by
  induction h with
  | here => exact walk_nil
  | idle hidle _ ih => exact (walk_idle hidle).trans ih
  | up _ ih => exact (walk_up _).trans ih
  | vacant hname hnode hblank => simp only [walk_ordinary hname, hnode, hblank, if_true]
  | down hname hnode _ ih => simp only [walk_ordinary hname, hnode, ih]
  | link hname hnode hfollow => simp [walk_ordinary hname, hnode, hfollow]
  | jump hname hnode hlast _ ih =>
    simp only [walk_ordinary hname, hnode]
    rw [if_neg (by simpa using hlast), ih]
  | @node _ _ _ node hname hnode hdirectory hlink =>
    simp only [walk_ordinary hname, hnode]
    cases node with
    | directory => exact absurd rfl hdirectory
    | link target => exact absurd rfl (hlink target)
    | file content runnable => rfl
    | device kind => rfl
    | program name => rfl

theorem walk_eq_ok_iff :
    t.walk follow links place todo = .ok d ↔ t.Leads follow links place todo d :=
  ⟨leads_of_walk, Leads.walk_eq⟩

/-! ## Trees that grow -/

/-- There is no difference but in the content of a file. -/
inductive Alike : Node → Node → Prop where
  | same (m : Node) : Alike m m
  | files (content : Bytes) (runnable : Bool) (content' : Bytes) (runnable' : Bool) :
      Alike (.file content runnable) (.file content' runnable')

/-- All that was there is there, except that files may have other contents. -/
structure Grows (t t' : FileTree) : Prop where
  workingDir : t'.workingDir = t.workingDir
  node : ∀ {place node}, t.node? place = some node →
    ∃ node', t'.node? place = some node' ∧ Alike node node'

structure Extends (t t' : FileTree) : Prop where
  workingDir : t'.workingDir = t.workingDir
  node : ∀ {place node}, t.node? place = some node → t'.node? place = some node

theorem Extends.refl (t : FileTree) : t.Extends t :=
  ⟨rfl, fun h => h⟩

theorem Extends.grows (h : t.Extends t') : t.Grows t' :=
  ⟨h.workingDir, fun hnode => ⟨_, h.node hnode, .same _⟩⟩

theorem Extends.grows_of_grows (h : t.Extends t') (h' : t'.Grows t'') : t.Grows t'' :=
  ⟨h'.workingDir.trans h.workingDir, fun hnode => h'.node (h.node hnode)⟩

/-- What is put where nothing was leaves all else as it is. -/
theorem extends_put (h : t.node? place = none) (node : Node) : t.Extends (t.put place node) := by
  refine ⟨put_workingDir t place node, ?_⟩
  intro q n hn
  rw [node?_put_of_ne t node (ne_of_node? hn h), hn]

theorem grows_put_file {content content' : Bytes} {runnable runnable' : Bool}
    (h : t.node? place = some (.file content runnable)) :
    t.Grows (t.put place (.file content' runnable')) := by
  refine ⟨put_workingDir t place _, ?_⟩
  intro q n hn
  by_cases hq : q = place
  · subst hq
    obtain rfl := Option.some.inj (h.symm.trans hn)
    have hplace : q ≠ [] := ne_nil_of_node? (t := t) (by simp [h])
    exact ⟨_, node?_put_self t _ hplace, .files _ _ _ _⟩
  · exact ⟨n, by rw [node?_put_of_ne t _ hq, hn], .same n⟩

/-! ## The same way in a later tree -/

/-- The place and all that it lies in are directories. -/
def Solid (t : FileTree) (place : Place) : Prop :=
  ∀ q, q <+: place → t.node? q = some .directory

theorem Solid.nil (t : FileTree) : t.Solid [] := by
  intro q hq
  obtain rfl := List.prefix_nil.1 hq
  rfl

theorem Solid.dropLast (h : t.Solid place) : t.Solid place.dropLast :=
  fun q hq => h q (hq.trans (List.dropLast_prefix place))

theorem Solid.append (h : t.Solid place) {name : Text}
    (hname : t.node? (place ++ [name]) = some .directory) : t.Solid (place ++ [name]) := by
  intro q hq
  rcases List.prefix_concat_iff.1 hq with rfl | hq
  · exact hname
  · exact h q hq

theorem Grows.solid (hg : t.Grows t') (h : t.Solid place) : t'.Solid place := by
  intro q hq
  obtain ⟨node', hnode', halike⟩ := hg.node (h q hq)
  cases halike
  exact hnode'

/-- What a path leads to is what is there; only a place to start from can be missing. -/
theorem Leads.node?_eq (h : t.Leads follow links place todo (.found q n)) :
    (t.node? q).getD .directory = n ∧ (t.Solid place → ∃ node, t.node? q = some node) := by
  generalize hd : Destination.found q n = d at h
  induction h with
  | here =>
    cases hd
    exact ⟨rfl, fun hsolid => ⟨_, hsolid q (List.prefix_refl q)⟩⟩
  | idle _ _ ih => exact ih hd
  | up _ ih =>
    obtain ⟨hend, hthere⟩ := ih hd
    exact ⟨hend, fun hsolid => hthere hsolid.dropLast⟩
  | vacant => cases hd
  | down _ hnode _ ih =>
    obtain ⟨hend, hthere⟩ := ih hd
    exact ⟨hend, fun hsolid => hthere (hsolid.append hnode)⟩
  | link _ hnode _ =>
    cases hd
    exact ⟨by rw [hnode]; rfl, fun _ => ⟨_, hnode⟩⟩
  | jump _ _ _ _ ih =>
    obtain ⟨hend, hthere⟩ := ih hd
    refine ⟨hend, fun hsolid => hthere ?_⟩
    split
    · exact .nil t
    · exact hsolid
  | node _ hnode _ _ =>
    cases hd
    exact ⟨by rw [hnode]; rfl, fun _ => ⟨_, hnode⟩⟩

theorem Alike.directory_iff (h : Alike n node) : n = .directory ↔ node = .directory := by
  cases h with
  | same => rfl
  | files => simp

/-- What a path led to, it leads to in the later tree. -/
theorem Leads.grows {n' : Node} (hg : t.Grows t')
    (h : t.Leads follow links place todo (.found q n)) (halike : Alike n n')
    (hend : (t'.node? q).getD .directory = n') :
    t'.Leads follow links place todo (.found q n') := by
  generalize hd : Destination.found q n = d at h
  -- what is no directory is really there
  have hthere (hne : n ≠ .directory) : t'.node? q = some n' := by
    cases hq : t'.node? q with
    | some node => rw [hq] at hend; exact congrArg some hend
    | none =>
      rw [hq] at hend
      exact absurd (halike.directory_iff.2 hend.symm) hne
  -- every node on the way is still there, and only the one at its end may be another file
  induction h with
  | here =>
    cases hd
    subst hend
    exact .here
  | idle hidle _ ih => exact .idle hidle (ih hd)
  | up _ ih => exact .up (ih hd)
  | vacant => cases hd
  | down hname hnode _ ih =>
    obtain ⟨node', hnode', hsame⟩ := hg.node hnode
    cases hsame
    exact .down hname hnode' (ih hd)
  | link hname hnode hfollow =>
    cases hd
    cases halike
    exact .link hname (hthere nofun) hfollow
  | jump hname hnode hlast _ ih =>
    obtain ⟨node', hnode', hsame⟩ := hg.node hnode
    cases hsame
    exact .jump hname hnode' hlast (ih hd)
  | node hname hnode hdirectory hlink =>
    cases hd
    refine .node hname (hthere hdirectory) ?_ ?_
    · intro hn'
      exact hdirectory (halike.directory_iff.2 hn')
    · cases halike
      · exact hlink
      · simp

/-- A path leads to nothing only where there is nothing. -/
theorem Leads.node?_eq_none (h : t.Leads follow links place todo (.vacant q slash)) :
    t.node? q = none := by
  generalize hd : Destination.vacant q slash = d at h
  induction h with
  | idle _ _ ih => exact ih hd
  | up _ ih => exact ih hd
  | vacant _ hnode _ => cases hd; exact hnode
  | down _ _ _ ih => exact ih hd
  | jump _ _ _ _ ih => exact ih hd
  | here => cases hd
  | link => cases hd
  | node => cases hd

theorem leads_of_blank {rest : List Text} (hblank : rest.all List.isEmpty = true)
    (hplace : t.node? place = some .directory) :
    t.Leads follow links place rest (.found place .directory) := by
  induction rest with
  | nil =>
    have hhere : t.Leads follow links place [] (.found place ((t.node? place).getD .directory)) :=
      .here
    rwa [hplace] at hhere
  | cons name rest ih =>
    obtain ⟨hname, hrest⟩ := Bool.and_eq_true_iff.1 (List.all_cons.symm.trans hblank)
    exact .idle (.inl (List.isEmpty_iff.1 hname)) (ih hrest)

/-- What may be found at the end of a path: behind a slash, only a directory. -/
def Ends (slash : Bool) (node : Node) : Prop :=
  node = .directory ∨ slash = false ∧ ∃ content runnable, node = .file content runnable

/-- A path that led to a free place leads to what is put there. -/
theorem Leads.of_vacant (he : t.Extends t') (h : t.Leads follow links place todo (.vacant q slash))
    (hn : t'.node? q = some n) (hends : Ends slash n) :
    t'.Leads true links place todo (.found q n) := by
  generalize hd : Destination.vacant q slash = d at h
  induction h with
  | here => cases hd
  | link => cases hd
  | node => cases hd
  | idle hidle _ ih => exact .idle hidle (ih hd)
  | up _ ih => exact .up (ih hd)
  | down hname hnode _ ih => exact .down hname (he.node hnode) (ih hd)
  | jump hname hnode _ _ ih => exact .jump hname (he.node hnode) (by simp) (ih hd)
  | vacant hname hnode hblank =>
    cases hd
    rcases hends with rfl | ⟨hslash, content, runnable, rfl⟩
    · exact .down hname hn (leads_of_blank hblank hn)
    · have hlast : ‹List Text› = [] := by simpa using hslash
      subst hlast
      exact .node hname hn (by simp) (by simp)

/-- Without following a last link, a path leads to the same, or to such a link. -/
theorem Leads.unfollowed (h : t.Leads true links place todo (.found q n)) :
    ∃ q' n', t.Leads false links place todo (.found q' n') := by
  generalize hd : Destination.found q n = d at h
  induction h with
  | here => exact ⟨_, _, .here⟩
  | idle hidle _ ih =>
    obtain ⟨q', n', hleads⟩ := ih hd
    exact ⟨q', n', .idle hidle hleads⟩
  | up _ ih =>
    obtain ⟨q', n', hleads⟩ := ih hd
    exact ⟨q', n', .up hleads⟩
  | vacant => cases hd
  | down hname hnode _ ih =>
    obtain ⟨q', n', hleads⟩ := ih hd
    exact ⟨q', n', .down hname hnode hleads⟩
  | link _ _ hfollow => cases hfollow
  | @jump _ _ _ rest _ _ hname hnode _ _ ih =>
    by_cases hlast : rest = []
    · subst hlast
      exact ⟨_, _, .link hname hnode rfl⟩
    · obtain ⟨q', n', hleads⟩ := ih hd
      exact ⟨q', n', .jump hname hnode (fun h => hlast h.1) hleads⟩
  | node hname hnode hdirectory hlink => exact ⟨_, _, .node hname hnode hdirectory hlink⟩

end FileTree
end ContractAssist
