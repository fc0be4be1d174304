import ToolScaffold.Proofs.Disk.Way
import ToolScaffold.Proofs.Export

/-!
# When exports succeed

A real run of an export succeeds on a disk that refuses nothing and does not give up, if it is not
refused, no file stands on the way to the output, and none of its targets is a directory or lies on
that way (`Tree.Ready`). The directories that are missing are made for the first file, and what is
written keeps the others ready (`ready_of_delivered`), so that all of them are written
(`on_applyAll_of_ready`).
-/

namespace ToolScaffold.Export

variable {world : World} {place : Place} {front : List String} {op : Operation} {output : Path}

/-- The disk refuses nothing and gives up at nothing. -/
structure Serves (limits : Limits) : Prop where
  isOpen : limits.Open
  stop_eq : ∀ p content, limits.stop p content = none

/-- An operation whose target is ready is performed. -/
theorem on_perform_of_ready (hserves : Serves world.limits)
    (h : world.tree.Ready place front op.target) :
    ∃ tree, (perform World.host op).on world = (.ok (), world.after tree []) := by
  obtain ⟨paved, hrun, hmade, hstanding⟩ := paves_makeParents (p := op.target) hserves.isOpen
    (fun q hq => (h.of_mem_above hq).1) h.start_entry
  have hready : paved.Ready place front op.target := by
    refine h.delivered hmade (fun q hq => ?_) (List.forall_mem_nil _)
    obtain ⟨hclear, hfront⟩ := h.of_mem_above hq
    exact ⟨hclear.toProper, hfront⟩
  obtain ⟨handle, hhandle⟩ := hready.exists_handle hserves.isOpen hstanding
  have hsave : paved.save op.file.1 op.file.2 world.limits =
      (.ok (), paved.fill op.file.2 handle) := by
    rw [Tree.save, Operation.file_fst, hhandle]
    dsimp only
    rw [hserves.stop_eq]
  have hstore := run_store op world paved
  rw [hsave] at hstore
  refine ⟨paved.fill op.file.2 handle, ?_⟩
  rw [perform_eq, Action.on_bind_of_ok (Action.on_attempt hrun)]
  exact Action.on_attempt hstore

/-- An operation whose target is ready is carried out. -/
theorem on_apply_of_ready (hserves : Serves world.limits)
    (h : world.tree.Ready place front op.target) :
    ∃ tree, (apply World.host false op).on world =
        (.ok op.target, world.after tree (op.notes false)) ∧
      world.tree.Delivered world.limits op.target.above [op.file] tree := by
  let detail : Note :=
    ⟨.debug, .exporting, "Handling export operation: " ++ op.description⟩
  obtain ⟨tree, hperform⟩ : ∃ tree, (perform World.host op).on (world.after world.tree [detail]) =
      (.ok (), (world.after world.tree [detail]).after tree []) := on_perform_of_ready hserves h
  have hcarried := carried_apply op world
  generalize hrun : (apply World.host false op).on world = outcome at hcarried
  rw [apply_false_eq, Action.on_bind_of_ok (Action.on_say _ _ _ _),
    Action.on_bind_of_ok hperform, Action.on_bind_of_ok (Action.on_say _ _ _ _)] at hrun
  cases hcarried with
  | done hdelivered =>
    rw [wayTo_singleton] at hdelivered
    exact ⟨_, rfl, hdelivered⟩
  | failed => cases hrun

/-- What is written in a directory leaves the targets in it ready. -/
theorem ready_of_delivered {t t' : Tree} {limits : Limits} {p q : Path} {content : Content}
    (hp : t.Ready place front p) (hq : t.Ready place front q)
    (h : t.Delivered limits q.above [(q, content)] t') : t'.Ready place front p := by
  refine hp.delivered h (fun r hr => ?_) ?_
  · obtain ⟨hclear, hfront⟩ := hq.of_mem_above hr
    exact ⟨hclear.toProper, hfront⟩
  · intro file hfile target hfind
    cases List.mem_singleton.mp hfile
    obtain ⟨found, hfound, hheld⟩ := h.held (List.nil_append [(q, content)]).symm
    rw [hfind] at hfound
    cases hfound
    have htarget := hfind
    rw [(hq.toProper.here h.here_eq).find_eq] at htarget
    refine ⟨?_, fun level hlevel => ?_⟩
    · rw [hheld (List.forall_mem_nil _)]
      simp
    · rw [Tree.route_of_walk htarget]
      exact hq.way_ne level hlevel

/-- Operations whose targets are ready are carried out one after the other. -/
theorem on_applyAll_of_ready {ops : List Operation} (hserves : Serves world.limits)
    (h : ∀ op ∈ ops, world.tree.Ready place front op.target) :
    ∃ w, (applyAll World.host false ops).on world = (.ok (ops.map Operation.target), w) := by
  induction ops generalizing world with
  | nil => exact ⟨world, rfl⟩
  | cons op rest ih =>
    rw [List.forall_mem_cons] at h
    obtain ⟨tree, hrun, hdelivered⟩ := on_apply_of_ready hserves h.1
    rw [show op.file = (op.target, op.file.2) from Prod.ext op.file_fst rfl] at hdelivered
    have hready : ∀ next ∈ rest, tree.Ready place front next.target := fun next hnext =>
      ready_of_delivered (h.2 next hnext) h.1 hdelivered
    obtain ⟨w, hrest⟩ : ∃ w, (applyAll World.host false rest).on
        (world.after tree (op.notes false)) = (.ok (rest.map Operation.target), w) :=
      ih hserves hready
    refine ⟨w, ?_⟩
    rw [applyAll, Action.on_bind_of_ok hrun, Action.on_bind_of_ok hrest]
    rfl

/-! ## Both exports -/

/-- An export that is not refused. -/
theorem on_checkOutput_of_free {force : Bool}
    (hfree : force = true ∨ ∀ entry, world.tree.lookup output world.limits ≠ .ok entry) :
    (checkOutput World.host force output).on world = (.ok (), world) := by
  rw [on_checkOutput, if_neg]
  rw [Bool.and_eq_true, Tree.isOk_lookup_iff, Bool.not_eq_true']
  rintro ⟨⟨entry, hentry⟩, rfl⟩
  obtain hforce | hnone := hfree
  · cases hforce
  · exact hnone entry hentry

/-- **An export to a directory succeeds** if its three targets are ready. -/
theorem toDirectory_of_ready (artifacts : Artifacts) {force : Bool} (hserves : Serves world.limits)
    (hfree : force = true ∨ ∀ entry, world.tree.lookup output world.limits ≠ .ok entry)
    (h : ∀ name ∈ artifacts.entries.map Prod.fst,
      world.tree.Ready place front (output.join name)) :
    ∃ w, (toDirectory World.host artifacts output ⟨force, false⟩).on world =
      (.ok [output.join "server.py", output.join "mcp.json", output.join "README.md"], w) := by
  have hready : ∀ op ∈ planned world output artifacts.entries,
      world.tree.Ready place front op.target := by
    intro op hop
    obtain ⟨entry, hentry, rfl⟩ := List.mem_map.mp hop
    exact h entry.1 (List.mem_map_of_mem hentry)
  obtain ⟨w, hrun⟩ := on_applyAll_of_ready hserves hready
  refine ⟨w, ?_⟩
  rw [toDirectory, Action.on_bind_of_ok (on_checkOutput_of_free hfree),
    Action.on_bind_lift (run_plan output artifacts.entries world), hrun, map_target_planned]
  rfl

/-- Writing an archive, whatever it is called. -/
theorem on_archive_of_ready {target : Path} (entries : List (String × String)) {force : Bool}
    (hserves : Serves world.limits)
    (hfree : force = true ∨ ∀ entry, world.tree.lookup target world.limits ≠ .ok entry)
    (h : world.tree.Ready place front target) :
    ∃ w, Action.on (do
        checkOutput World.host force target
        let targetExists ← World.host.disk.isThere target
        apply World.host false (.archive target entries targetExists)) world = (.ok target, w) := by
  let op : Operation := .archive target entries (world.tree.lookup target world.limits).isOk
  have hready : world.tree.Ready place front op.target := h
  obtain ⟨tree, hrun, -⟩ := on_apply_of_ready hserves hready
  refine ⟨world.after tree (op.notes false), ?_⟩
  rw [Action.on_bind_of_ok (on_checkOutput_of_free hfree),
    Action.on_bind_monadLift (OnDisk.run_isThere _ world)]
  exact hrun

/-- **An export to an archive succeeds** if the archive's target is ready. -/
theorem toArchive_of_ready (artifacts : Artifacts) (name : String) {force : Bool}
    (hserves : Serves world.limits)
    (hfree : force = true ∨
      ∀ entry, world.tree.lookup (output.join (archiveName name)) world.limits ≠ .ok entry)
    (h : world.tree.Ready place front (output.join (archiveName name))) :
    ∃ w, (toArchive World.host artifacts name output ⟨force, false⟩).on world =
      (.ok (output.join (archiveName name)), w) :=
  on_archive_of_ready artifacts.entries hserves hfree h

end ToolScaffold.Export
