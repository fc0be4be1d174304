import ToolScaffold.Proofs.Host

/-!
# Ways that are clear

The directories above a path are made from the inside out. On a disk that refuses nothing they are
there afterwards, however many of them were missing, if no file stands on their way
(`paves_makeParents`). For a path on a clear way is either found or something is missing
(`walk_of_clear`), and then the directory around it is tried; they lie in each other
(`Path.isChain_above`), so once one of them is there, the next is found or can be made
(`Standing.walk_next`, `Clear.directory_or_free`).

`Ready` says that a file can be written at a path once the directories above it are made. It is kept
by what is written elsewhere (`Ready.delivered`).
-/

namespace ToolScaffold

/-- The disk refuses nothing. -/
def Limits.Open (limits : Limits) : Prop := ∀ demand place, limits.refusal demand place = .none

namespace Tree

variable {t t' : Tree} {limits : Limits} {p q : Path} {place other : Place}
  {steps front : List String}

/-! ## Routes -/

/-- Where steps lead from a place, whatever stands there. -/
def route (place : Place) (steps : List String) : Place := steps.foldl follow place

theorem route_cons (place : Place) (name : String) (rest : List String) :
    route place (name :: rest) = route (follow place name) rest := rfl

theorem route_append (place : Place) (xs ys : List String) :
    route place (xs ++ ys) = route (route place xs) ys := List.foldl_append

theorem follow_of_counts {name : String} (h : Path.counts name = false) (place : Place) :
    follow place name = place := by
  refine if_pos ?_
  simpa [Path.counts, or_iff_not_imp_left] using h

theorem route_of_counts {fill : List String} (h : ∀ step ∈ fill, Path.counts step = false)
    (place : Place) : route place fill = place := by
  induction fill with
  | nil => rfl
  | cons name rest ih =>
    rw [List.forall_mem_cons] at h
    rw [route_cons, follow_of_counts h.1, ih h.2]

theorem follow_of_step {name : String} (h : step limits place name = .ok other) :
    other = follow place name := by
  by_cases hname : name = ""
  · subst hname
    cases h
    rfl
  · exact ((step_eq_ok_iff hname).mp h).2.2.symm

/-- A walk that comes to an end goes along the route. -/
theorem route_of_walk (h : t.walk limits place steps = .ok other) : other = route place steps := by
  induction steps generalizing place with
  | nil =>
    cases h
    rfl
  | cons name rest ih =>
    obtain ⟨-, next, hstep, hrest⟩ := walk_cons_iff.mp h
    cases follow_of_step hstep
    exact ih hrest

theorem step_of_open (hopen : limits.Open) {name : String} (hname : name.utf8ByteSize ≤ maxName)
    (place : Place) : step limits place name = .ok (follow place name) := by
  by_cases hempty : name = ""
  · subst hempty
    rfl
  · exact (step_eq_ok_iff hempty).mpr ⟨hopen _ _, hname, rfl⟩

/-- Steps with no file on their way lead along the route, unless something is missing. -/
theorem walk_of_clear (hopen : limits.Open) (hnames : ∀ name ∈ steps, name.utf8ByteSize ≤ maxName)
    (hclear : ∀ front, front <+: steps → ∀ content,
      t.entry? (route place front) ≠ some (.file content)) :
    t.walk limits place steps = .ok (route place steps) ∨
      t.walk limits place steps = .error .notFound := by
  induction steps generalizing place with
  | nil => exact .inl rfl
  | cons name rest ih =>
    rw [List.forall_mem_cons] at hnames
    have hafter : ∀ front, front <+: rest → ∀ content,
        t.entry? (route (follow place name) front) ≠ some (.file content) := fun front hfront =>
      hclear (name :: front) (List.cons_prefix_cons.mpr ⟨rfl, hfront⟩)
    have hrest := ih hnames.2 hafter
    rw [walk]
    cases hplace : t.entry? place with
    | none => exact .inr rfl
    | some entry =>
      cases entry with
      | file content => exact absurd hplace (hclear [] List.nil_prefix content)
      | directory =>
        change (step limits place name >>= fun next => t.walk limits next rest) = _ ∨
          (step limits place name >>= fun next => t.walk limits next rest) = _
        rw [step_of_open hopen hnames.1]
        exact hrest

/-! ## Standing directories -/

/-- The steps lead from the place to a directory. -/
structure Standing (limits : Limits) (t : Tree) (place : Place) (steps : List String) : Prop where
  walk_eq : t.walk limits place steps = .ok (route place steps)
  entry_eq : t.entry? (route place steps) = some .directory

theorem standing_nil (h : t.entry? place = some .directory) : t.Standing limits place [] :=
  ⟨rfl, h⟩

/-- Steps that do not count lead nowhere in a directory. -/
theorem walk_of_fill (hopen : limits.Open) {fill : List String}
    (hfill : ∀ step ∈ fill, Path.counts step = false)
    (hnames : ∀ name ∈ fill, name.utf8ByteSize ≤ maxName)
    (h : t.entry? place = some .directory) : t.walk limits place fill = .ok place := by
  induction fill with
  | nil => rfl
  | cons name rest ih =>
    rw [List.forall_mem_cons] at hfill hnames
    refine walk_cons_iff.mpr ⟨h, place, ?_, ih hfill.2 hnames.2⟩
    rw [step_of_open hopen hnames.1, follow_of_counts hfill.1]

/-- In a directory that is there, the next place is found. -/
theorem Standing.walk_next {outer inner : List String} (h : t.Standing limits place outer)
    (hopen : limits.Open) (hnext : Path.Next outer inner)
    (hnames : ∀ name ∈ inner, name.utf8ByteSize ≤ maxName) :
    t.walk limits place inner = .ok (route place inner) := by
  obtain ⟨fill, part, hfill, rfl⟩ := hnext
  simp only [List.forall_mem_append] at hnames
  obtain ⟨⟨-, hfillnames⟩, hpart⟩ := hnames
  have hstay := walk_of_fill hopen hfill hfillnames h.entry_eq
  have hlast := step_of_open hopen (hpart part (List.mem_singleton_self part)) (route place outer)
  rw [List.append_assoc, route_append, route_append, route_of_counts hfill, walk_append_iff]
  refine ⟨_, h.walk_eq, walk_append_iff.mpr ⟨_, hstay, ?_⟩⟩
  exact walk_cons_iff.mpr ⟨h.entry_eq, _, hlast, rfl⟩

theorem makeDirectory_of_free (hfind : t.find p limits = .ok place) (hnode : t.node? place = none)
    (hadd : limits.refusal .add place = .none) :
    t.makeDirectory p limits = .ok (t.put place .directory) := by
  rw [makeDirectory_of_find hfind, hnode]
  exact bind_eq_ok.mpr ⟨(), Limits.allow_eq_ok.mpr hadd, rfl⟩

/-! ## Clear ways -/

/-- The path is one that the system takes, and it starts at the place. -/
structure Proper (t : Tree) (place : Place) (p : Path) : Prop where
  notMem_nul : '\x00' ∉ p.text.toList
  text_ne : p.text ≠ ""
  size_lt : p.text.utf8ByteSize < maxPath
  size_le : ∀ name ∈ p.steps, name.utf8ByteSize ≤ maxName
  start_eq : t.start p = place

namespace Proper

theorem here (h : t.Proper place p) (heq : t'.here = t.here) : t'.Proper place p where
  notMem_nul := h.notMem_nul
  text_ne := h.text_ne
  size_lt := h.size_lt
  size_le := h.size_le
  start_eq := by
    rw [start, heq]
    exact h.start_eq

theorem begins (h : t.Proper place p) (hq : q.Begins p) : t.Proper place q where
  notMem_nul := fun hmem => h.notMem_nul (hq.text_prefix.subset hmem)
  text_ne := hq.text_ne
  size_lt := Nat.lt_of_le_of_lt hq.utf8ByteSize_le h.size_lt
  size_le := fun name hname => h.size_le name (hq.steps_prefix.subset hname)
  start_eq := by
    rw [start, hq.isAbsolute_eq]
    exact h.start_eq

theorem find_eq (h : t.Proper place p) : t.find p limits = t.walk limits place p.steps := by
  rw [find, if_neg (by simpa using h.notMem_nul), if_neg h.text_ne,
    if_neg (Nat.not_le.mpr h.size_lt), h.start_eq]

end Proper

/-- No file stands on the way of the path or at its end. -/
structure Clear (t : Tree) (place : Place) (p : Path) : Prop extends Proper t place p where
  entry_ne : ∀ front, front <+: p.steps → ∀ content,
    t.entry? (route place front) ≠ some (.file content)

namespace Clear

/-- Directories that are made somewhere are in nobody's way. -/
theorem delivered {way : List Path} (h : t.Clear place p) (hmade : t.Delivered limits way [] t') :
    t'.Clear place p where
  toProper := h.toProper.here hmade.here_eq
  entry_ne := by
    intro front hfront content
    obtain heq | ⟨-, hdirectory, -⟩ := hmade.frame (route place front) (List.forall_mem_nil _)
    · rw [heq]
      exact h.entry_ne front hfront content
    · rw [hdirectory]
      simp

theorem find_eq_notFound (h : t.Clear place p) (hopen : limits.Open)
    (hwalk : t.walk limits place p.steps ≠ .ok (route place p.steps)) :
    t.find p limits = .error .notFound := by
  rw [h.find_eq]
  exact (walk_of_clear hopen h.size_le h.entry_ne).resolve_left hwalk

end Clear

/-- **A path on a clear way** that leads somewhere, leads to a directory or to a free place, where
one can be made. -/
theorem Clear.directory_or_free (h : t.Clear place p) (hopen : limits.Open)
    (hwalk : t.walk limits place p.steps = .ok (route place p.steps)) :
    t.lookup p limits = .ok .directory ∧ t.Standing limits place p.steps ∨
      ∃ t', t.makeDirectory p limits = .ok t' ∧ t'.Standing limits place p.steps := by
  have hfind := h.find_eq.trans hwalk
  cases hentry : t.entry? (route place p.steps) with
  | some entry =>
    cases entry with
    | file content => exact absurd hentry (h.entry_ne p.steps List.prefix_rfl content)
    | directory => exact .inl ⟨lookup_eq_ok_iff.mpr ⟨_, hfind, hentry, hopen _ _⟩, hwalk, hentry⟩
  | none =>
    have hnode := entry?_eq_none_iff.mp hentry
    refine .inr ⟨_, makeDirectory_of_free hfind hnode (hopen _ _), ?_, ?_⟩
    · have hgrows : Grows t (t.put (route place p.steps) .directory) := grows_put hnode nofun
      exact hgrows.walk hwalk
    · rw [entry?_eq_directory_iff, node?_put_self (ne_nil_of_node?_eq_none hnode)]

/-! ## Targets -/

/-- A file can be written at the path, in the directory that `front` leads to: no file stands on the
way there, and what is written there is neither on that way nor over a directory. -/
structure Ready (t : Tree) (place : Place) (front : List String) (p : Path) : Prop
    extends Proper t place p where
  steps_eq : ∃ name, Path.counts name = true ∧ p.steps = front ++ [name]
  start_entry : t.entry? place = some .directory
  way_entry : ∀ level, level <+: front → ∀ content,
    t.entry? (route place level) ≠ some (.file content)
  way_ne : ∀ level, level <+: front → route place level ≠ route place p.steps
  entry_ne : t.entry? (route place p.steps) ≠ some .directory

namespace Ready

theorem of_mem_above (h : t.Ready place front p) (hq : q ∈ p.above) :
    t.Clear place q ∧ q.steps <+: front := by
  obtain ⟨name, hname, hsteps⟩ := h.steps_eq
  have hfront := Path.prefix_of_mem_above hsteps hname hq
  have hbegins := Path.begins_of_mem_ancestors (List.mem_of_mem_tail hq)
  exact ⟨⟨h.begins hbegins, fun level hlevel => h.way_entry level (hlevel.trans hfront)⟩, hfront⟩

/-- A file can still be written after others were, and directories were made on the way. -/
theorem delivered {way : List Path} {files : List (Path × Content)} (h : t.Ready place front p)
    (hdelivered : t.Delivered limits way files t')
    (hway : ∀ q ∈ way, t.Proper place q ∧ q.steps <+: front)
    (hfiles : ∀ file ∈ files, ∀ target, t'.find file.1 limits = .ok target →
      t'.entry? target ≠ some .directory ∧
        ∀ level, level <+: front → route place level ≠ target) :
    t'.Ready place front p where
  toProper := h.toProper.here hdelivered.here_eq
  steps_eq := h.steps_eq
  start_entry := hdelivered.directory h.start_entry
  way_ne := h.way_ne
  way_entry := by
    intro level hlevel content hfile
    have hfile' := h.way_entry level hlevel
    by_cases hreached : ∃ file ∈ files, t'.Reaches limits file.1 (route place level)
    · obtain ⟨file, hmem, target, hfind, hlinked⟩ := hreached
      obtain heq | ⟨number, -, hnumber⟩ := hdelivered.linked hlinked
      · exact (hfiles file hmem target hfind).2 level hlevel heq.symm
      · obtain ⟨old, hold⟩ := exists_file_of_number? hnumber
        exact hfile' old hold
    · obtain heq | ⟨-, hdirectory, -⟩ := hdelivered.frame (route place level)
        fun file hmem hreaches => hreached ⟨file, hmem, hreaches⟩
      · exact hfile' content (heq.symm.trans hfile)
      · rw [hdirectory] at hfile
        cases hfile
  entry_ne := by
    intro hdirectory
    by_cases hreached : ∃ file ∈ files, t'.Reaches limits file.1 (route place p.steps)
    · obtain ⟨file, hmem, target, hfind, hlinked⟩ := hreached
      obtain heq | ⟨number, -, hnumber⟩ := hlinked
      · rw [← heq] at hdirectory
        exact (hfiles file hmem target hfind).1 hdirectory
      · obtain ⟨content, hcontent⟩ := exists_file_of_number? hnumber
        rw [hdirectory] at hcontent
        cases hcontent
    · obtain heq | ⟨-, -, q, hq, hfind⟩ := hdelivered.frame (route place p.steps)
        fun file hmem hreaches => hreached ⟨file, hmem, hreaches⟩
      · exact h.entry_ne (heq.symm.trans hdirectory)
      · obtain ⟨hproper, hfront⟩ := hway q hq
        rw [(hproper.here hdelivered.here_eq).find_eq] at hfind
        exact h.way_ne _ hfront (route_of_walk hfind).symm

/-- Once the directories above the path are there, the file is opened. -/
theorem exists_handle (h : t.Ready place front p) (hopen : limits.Open)
    (hstanding : t.Standing limits place ((p.above.map Path.steps).headD [])) :
    ∃ handle, t.openFile p limits = .ok handle := by
  obtain ⟨name, hname, hsteps⟩ := h.steps_eq
  have hwalk := hstanding.walk_next hopen (Path.next_above hsteps hname) h.size_le
  rw [openFile_of_find (h.find_eq.trans hwalk)]
  cases hnode : t.node? (route place p.steps) with
  | none => exact ⟨_, bind_eq_ok.mpr ⟨(), Limits.allow_eq_ok.mpr (hopen _ _), rfl⟩⟩
  | some node =>
    cases node with
    | directory => exact absurd (entry?_eq_directory_iff.mpr hnode) h.entry_ne
    | file number content =>
      exact ⟨_, bind_eq_ok.mpr ⟨(), Limits.allow_eq_ok.mpr (hopen _ _), rfl⟩⟩

end Ready

end Tree

/-! ## Making directories -/

section Directories

variable {w : World} {place : Place} {p : Path} {outer : List String} {paths missing : List Path}

/-- The operation succeeds. It leaves the disk alone, but for directories that it makes at some of
the paths, and the last steps lead to a directory then. -/
def Paves (x : StateM World (Except DiskFault Unit)) (w : World) (place : Place)
    (paths : List Path) (last : List String) : Prop :=
  ∃ t, x.run w = (.ok (), w.after t []) ∧ w.tree.Delivered w.limits paths [] t ∧
    t.Standing w.limits place last

/-- Where a path leads on a clear way, a directory is made or found. -/
theorem paves_ensureDirectory (hopen : w.limits.Open) (hclear : w.tree.Clear place p)
    (hwalk : w.tree.walk w.limits place p.steps = .ok (Tree.route place p.steps)) :
    Paves (World.host.disk.ensureDirectory p) w place [p] p.steps := by
  have hplace := hclear.directory_or_free hopen hwalk
  obtain ⟨t, hmade, hrun⟩ | ⟨hlookup, hrun⟩ | ⟨fault, hblocks, -⟩ := run_ensureDirectory p w
  · obtain ⟨hlookup, -⟩ | ⟨t', hmade', hstanding⟩ := hplace
    · rw [Tree.makeDirectory_of_lookup hlookup] at hmade
      cases hmade
    · rw [hmade] at hmade'
      cases hmade'
      exact ⟨t, hrun, Tree.delivered_makeDirectory hmade, hstanding⟩
  · obtain ⟨-, hstanding⟩ | ⟨t', hmade, -⟩ := hplace
    · refine ⟨w.tree, ?_, .refl _ _ _, hstanding⟩
      rwa [World.after_tree_nil rfl]
    · rw [Tree.makeDirectory_of_lookup hlookup] at hmade
      cases hmade
  · obtain ⟨hlookup, -⟩ | ⟨t', hmade, -⟩ := hplace
    · exact absurd hlookup hblocks.lookup_ne
    · rw [hblocks.makeDirectory_eq] at hmade
      cases hmade

/-- Where a path does not lead anywhere on a clear way, something is missing. -/
theorem run_ensureDirectory_of_absent (hopen : w.limits.Open) (hclear : w.tree.Clear place p)
    (hwalk : w.tree.walk w.limits place p.steps ≠ .ok (Tree.route place p.steps)) :
    (World.host.disk.ensureDirectory p).run w = (.error .notFound, w) := by
  have hfind := hclear.find_eq_notFound hopen hwalk
  have hmake : w.tree.makeDirectory p w.limits = .error .notFound := by
    rw [Tree.makeDirectory, hfind]
    rfl
  obtain ⟨t, hmade, -⟩ | ⟨hlookup, -⟩ | ⟨fault, hblocks, hrun⟩ := run_ensureDirectory p w
  · rw [hmake] at hmade
    cases hmade
  · rw [Tree.makeDirectory_of_lookup hlookup] at hmake
    cases hmake
  · have hfault := hblocks.makeDirectory_eq
    rw [hmake] at hfault
    cases hfault
    exact hrun

/-- Directories that lie in each other and in one that is there. -/
theorem paves_ensureAll (hopen : w.limits.Open) (hclear : ∀ p ∈ paths, w.tree.Clear place p)
    (hchain : (outer :: paths.map Path.steps).IsChain Path.Next)
    (houter : w.tree.Standing w.limits place outer) :
    Paves (World.host.disk.ensureAll paths) w place paths
      ((paths.map Path.steps).getLastD outer) := by
  induction paths generalizing w outer with
  | nil =>
    refine ⟨w.tree, ?_, .refl _ _ _, houter⟩
    rw [World.after_tree_nil rfl]
    rfl
  | cons p rest ih =>
    rw [List.forall_mem_cons] at hclear
    rw [List.map_cons, List.isChain_cons_cons] at hchain
    have hwalk := houter.walk_next hopen hchain.1 hclear.1.size_le
    obtain ⟨t, hrun, hmade, hstanding⟩ := paves_ensureDirectory hopen hclear.1 hwalk
    have hothers : ∀ q ∈ rest, t.Clear place q := fun q hq => (hclear.2 q hq).delivered hmade
    obtain ⟨u, hrun', hmade', hlast⟩ := ih (w := w.after t []) hopen hothers hchain.2 hstanding
    rw [World.after_after] at hrun'
    refine ⟨u, ?_, ?_, ?_⟩
    · rw [Disk.ensureAll, StateT.run_bind, hrun]
      exact hrun'
    · exact (hmade.mono (by simp)).append (hmade'.mono (List.subset_cons_self _ _))
    · rwa [List.map_cons, List.getLastD_cons]

/-- Directories that lie in each other are made, from whichever of them there is a way. -/
theorem paves_ensureNested (hopen : w.limits.Open)
    (hclear : ∀ p ∈ paths ++ missing, w.tree.Clear place p)
    (hchain : (paths.map Path.steps ++ [[]]).IsChain fun inner outer => Path.Next outer inner)
    (hmissing : ((paths.map Path.steps).headD [] :: missing.map Path.steps).IsChain Path.Next)
    (hplace : w.tree.entry? place = some .directory) :
    Paves (World.host.disk.ensureNested paths missing) w place (paths ++ missing)
      ((missing.map Path.steps).getLastD ((paths.map Path.steps).headD [])) := by
  induction paths generalizing missing with
  | nil => exact paves_ensureAll hopen hclear hmissing (Tree.standing_nil hplace)
  | cons p outer ih =>
    have hp : w.tree.Clear place p := hclear p List.mem_cons_self
    by_cases hwalk : w.tree.walk w.limits place p.steps = .ok (Tree.route place p.steps)
    · obtain ⟨t, hrun, hmade, hstanding⟩ := paves_ensureDirectory hopen hp hwalk
      have hothers : ∀ q ∈ missing, t.Clear place q := fun q hq =>
        (hclear q (List.mem_append_right _ hq)).delivered hmade
      obtain ⟨u, hrun', hmade', hlast⟩ :=
        paves_ensureAll (w := w.after t []) hopen hothers hmissing hstanding
      rw [World.after_after] at hrun'
      refine ⟨u, ?_, ?_, hlast⟩
      · rw [Disk.ensureNested, StateT.run_bind, hrun]
        exact hrun'
      · exact (hmade.mono (by simp)).append (hmade'.mono (List.subset_append_right _ _))
    · have habsent := run_ensureDirectory_of_absent hopen hp hwalk
      rw [List.map_cons, List.cons_append, List.isChain_cons] at hchain
      have hrest : ∀ q ∈ outer ++ p :: missing, w.tree.Clear place q := by
        intro q hq
        exact hclear q (by simpa [or_left_comm] using hq)
      have hlonger : ((outer.map Path.steps).headD [] :: (p :: missing).map Path.steps).IsChain
          Path.Next := by
        refine .cons_cons (hchain.1 _ ?_) hmissing
        cases outer <;> simp
      obtain ⟨t, hrun, hmade, hlast⟩ := ih hrest hchain.2 hlonger
      refine ⟨t, ?_, hmade.mono ?_, ?_⟩
      · rw [Disk.ensureNested, StateT.run_bind, habsent]
        exact hrun
      · intro q hq
        simpa [or_left_comm] using hq
      · rwa [List.map_cons, List.getLastD_cons] at hlast

/-- **The directories above a path** are made if no file stands on their way. -/
theorem paves_makeParents (hopen : w.limits.Open) (hclear : ∀ q ∈ p.above, w.tree.Clear place q)
    (hplace : w.tree.entry? place = some .directory) :
    Paves (World.host.disk.makeParents p) w place p.above ((p.above.map Path.steps).headD []) := by
  have hall : ∀ q ∈ p.above ++ [], w.tree.Clear place q := by simpa using hclear
  have hpaves := paves_ensureNested hopen hall (Path.isChain_above p) (.singleton _) hplace
  rwa [List.append_nil] at hpaves

end Directories

end ToolScaffold
