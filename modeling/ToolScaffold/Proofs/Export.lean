import ToolScaffold.Export
import ToolScaffold.Proofs.Disk.Way
import ToolScaffold.Proofs.Host

/-!
# Exports write their files and nothing else

An export is refused exactly if what it writes to is found and it is not forced to, and then nothing
happens. Otherwise it carries operations out, each of which writes one file: either all of them, and
then the files are on the disk, or those before one that the disk refuses, or gives up in the middle
of (`Broken`). Nothing else is done to the disk, but that directories are made on the way to the
files. A dry run leaves the disk alone, and if the real run succeeds it answers the same and notes
the same with a mark in front. `Faithful` says all of this, and `exports_faithful` that both ways to
export are like this, for every machine.

`carried_apply` is one operation, and `carried_applyAll` a run of them. The targets of an export are
never at one place (`pairwise_apart`), for different names in a directory are not.

All of this is about what paths lead to: `exports_overlook` shows a directory, a file and a full
disk that an export does not see.
-/

namespace ToolScaffold

namespace Operation

/-- The file that the operation writes. -/
def file : Operation → Path × Content
  | write target content _ => (target, .text content)
  | archive target entries _ => (target, .archive entries)

@[simp] theorem file_fst (op : Operation) : op.file.1 = op.target := by
  cases op <;> rfl

/-- The notes about the operation. -/
def notes (dryRun : Bool) (op : Operation) : List Note :=
  [⟨.debug, .exporting, "Handling export operation: " ++ op.description⟩,
    ⟨.info, .exporting, op.message dryRun⟩]

end Operation

namespace Export

variable {α : Type}

/-- The directories on the way to files. -/
def wayTo (files : List (Path × Content)) : List Path := files.flatMap fun file => file.1.above

/-- How writing files ends that the disk does not let be finished: those before one are written, and
that one is either refused, or it was opened, and the disk gave up and left something else in it. -/
inductive Broken (limits : Limits) (files : List (Path × Content)) (fault : DiskFault)
    (t t' : Tree) : Prop
  | refused {written rest : List (Path × Content)} {next : Path × Content}
    (hfiles : files = written ++ next :: rest) (hrefused : t'.Refuses limits next.1 fault)
    (h : t.Delivered limits (wayTo files) written t')
  | stopped {written rest : List (Path × Content)} {next : Path × Content} {left : Content}
    (hfiles : files = written ++ next :: rest)
    (hstop : limits.stop next.1 next.2 = some (left, fault))
    (h : t.Delivered limits (wayTo files) (written ++ [(next.1, left)]) t')

/-- How writing files may end: with all of them written, or broken off. -/
inductive Carried (files : List (Path × Content)) (notes : List Note) (answer : α) (world : World) :
    Except Error α × World → Prop
  | done {tree : Tree} (h : world.tree.Delivered world.limits (wayTo files) files tree) :
    Carried files notes answer world (.ok answer, world.after tree notes)
  | failed {fault : DiskFault} {tree : Tree} {noted : List Note}
    (h : Broken world.limits files fault world.tree tree) :
    Carried files notes answer world (.error (.disk fault), world.after tree noted)

section Broken

variable {limits : Limits} {xs ys : List (Path × Content)} {fault : DiskFault} {t s u : Tree}

theorem wayTo_append (xs ys : List (Path × Content)) :
    wayTo (xs ++ ys) = wayTo xs ++ wayTo ys := List.flatMap_append

/-- What breaks off the first files breaks off all of them. -/
theorem Broken.append (h : Broken limits xs fault t u) (ys : List (Path × Content)) :
    Broken limits (xs ++ ys) fault t u := by
  have hway : wayTo xs ⊆ wayTo (xs ++ ys) := by simp [wayTo_append]
  have hsplit : ∀ {written rest next}, xs = written ++ next :: rest →
      xs ++ ys = written ++ next :: (rest ++ ys) := by
    rintro written rest next rfl
    rw [List.append_assoc, List.cons_append]
  cases h with
  | refused hfiles hrefused h => exact .refused (hsplit hfiles) hrefused (h.mono hway)
  | stopped hfiles hstop h => exact .stopped (hsplit hfiles) hstop (h.mono hway)

theorem delivered_append (h : t.Delivered limits (wayTo xs) xs s) {written : List (Path × Content)}
    (h' : s.Delivered limits (wayTo ys) written u) :
    t.Delivered limits (wayTo (xs ++ ys)) (xs ++ written) u := by
  rw [wayTo_append]
  exact (h.mono (List.subset_append_left _ _)).append (h'.mono (List.subset_append_right _ _))

/-- Files were written before those that were broken off. -/
theorem Broken.after (h : t.Delivered limits (wayTo xs) xs s) (h' : Broken limits ys fault s u) :
    Broken limits (xs ++ ys) fault t u := by
  cases h' with
  | refused hfiles hrefused h' =>
    exact .refused (by rw [hfiles, List.append_assoc]) hrefused (delivered_append h h')
  | stopped hfiles hstop h' =>
    refine .stopped (by rw [hfiles, List.append_assoc]) hstop ?_
    rw [List.append_assoc]
    exact delivered_append h h'

end Broken

/-! ## One operation -/

/-- Making directories on a way is a change of the disk. -/
def paving (way : List Path) : Change :=
  ⟨fun limits => Tree.Delivered limits way [], fun limits => .refl limits way, .trans⟩

theorem onDisk_makeParents (p : Path) :
    OnDisk (paving p.above) (World.host.disk.makeParents p) := by
  refine .makeParents fun q hq => .makeDirectory fun h => ?_
  exact (Tree.delivered_makeDirectory h).mono (by simpa using hq)

/-- Writing the file of an operation, once the directories above it are there. -/
def store (op : Operation) : StateM World (Except DiskFault Unit) :=
  Tree.change (fun world tree => { world with tree })
    fun world => world.tree.save op.file.1 op.file.2 world.limits

theorem run_store (op : Operation) (w : World) (tree : Tree) :
    (store op).run (w.after tree []) = ((tree.save op.file.1 op.file.2 w.limits).1,
      w.after (tree.save op.file.1 op.file.2 w.limits).2 []) := by
  refine (World.run_change _ _).trans ?_
  rw [World.after_after]
  rfl

theorem perform_eq (op : Operation) : perform World.host op = (do
    Host.attempt (World.host.disk.makeParents op.target)
    Host.attempt (store op)) := by
  cases op <;> rfl

theorem wayTo_singleton (op : Operation) : wayTo [op.file] = op.target.above := by
  simp [wayTo]

/-- An operation writes its file, or it is broken off. -/
theorem carried_perform (op : Operation) (w : World) :
    Carried [op.file] [] () w ((perform World.host op).on w) := by
  obtain ⟨r, s, hpaved, hrun⟩ := onDisk_makeParents op.target w.limits w.tree
  change Tree.Delivered w.limits op.target.above [] w.tree s at hpaved
  rw [← wayTo_singleton] at hpaved
  have hparents := Action.on_attempt (hrun w rfl rfl)
  rw [perform_eq]
  cases r with
  | error fault =>
    rw [Action.on_bind_of_error hparents]
    refine .failed (.refused (List.nil_append _).symm (.inl ?_) hpaved)
    rw [Operation.file_fst]
    exact blocks_of_makeParents (hrun w rfl rfl)
  | ok =>
    rw [Action.on_bind_of_ok hparents]
    rw [Action.on_attempt (run_store op w s)]
    obtain ⟨tree, hwritten, hsave⟩ | ⟨fault, hrefused, hsave⟩ |
      ⟨left, fault, tree, hstop, hleft, hsave⟩ := s.delivered_save op.file.1 op.file.2 w.limits
    · rw [hsave]
      exact .done (hpaved.trans (hwritten.mono (List.nil_subset _)))
    · rw [hsave]
      exact .failed (.refused (List.nil_append _).symm (.inr hrefused) hpaved)
    · rw [hsave]
      refine .failed (.stopped (List.nil_append _).symm hstop ?_)
      exact hpaved.trans (hleft.mono (List.nil_subset _))

theorem apply_false_eq (op : Operation) : apply World.host false op = (do
    World.host.say .debug .exporting ("Handling export operation: " ++ op.description)
    perform World.host op
    World.host.say .info .exporting (op.message false)
    return op.target) := rfl

/-- **One operation** of a real run does what performing it does, and is noted if that succeeds. -/
theorem carried_apply (op : Operation) (w : World) :
    Carried [op.file] (op.notes false) op.target w ((apply World.host false op).on w) := by
  let detail : Note :=
    ⟨.debug, .exporting, "Handling export operation: " ++ op.description⟩
  rw [apply_false_eq, Action.on_bind_of_ok (Action.on_say _ _ _ w)]
  have hperformed := carried_perform op (w.after w.tree [detail])
  generalize hrun : (perform World.host op).on (w.after w.tree [detail]) = outcome at hperformed
  cases hperformed with
  | done h =>
    rw [Action.on_bind_of_ok hrun, World.after_after, Action.on_bind_of_ok (Action.on_say _ _ _ _),
      World.after_after]
    exact .done h
  | failed h =>
    rw [Action.on_bind_of_error hrun, World.after_after]
    exact .failed h

theorem on_checkOutput (force : Bool) (output : Path) (w : World) :
    (checkOutput World.host force output).on w =
      if (w.tree.lookup output w.limits).isOk && !force then (.error (.outputExists output), w)
      else (.ok (), w) := by
  rw [checkOutput, Action.on_bind_monadLift (OnDisk.run_isThere output w)]
  split <;> rfl

/-- The operations that are planned on a machine. -/
def planned (w : World) (output : Path) (entries : List (String × String)) : List Operation :=
  entries.map fun entry =>
    .write (output.join entry.1) entry.2 (w.tree.lookup (output.join entry.1) w.limits).isOk

theorem map_target_planned (w : World) (output : Path) (entries : List (String × String)) :
    (planned w output entries).map Operation.target =
      entries.map fun entry => output.join entry.1 := List.map_map

theorem run_plan (output : Path) (entries : List (String × String)) (w : World) :
    (plan World.host output entries).run w = (planned w output entries, w) := by
  induction entries with
  | nil => rfl
  | cons entry rest ih =>
    rw [plan, StateT.run_bind, OnDisk.run_isThere]
    change StateT.run (plan World.host output rest >>= fun ops =>
      pure (.write (output.join entry.1) entry.2
        (w.tree.lookup (output.join entry.1) w.limits).isOk :: ops)) w = _
    rw [StateT.run_bind, ih]
    rfl

section Faithful

variable {run body : Bool → Action (StateM World) α} {force : Bool} {output : Path}
  {files : List (Path × Content)} {notes : List Note} {answer : α} {world : World}

end Faithful

/-! ## Both exports -/

/-- The directory is made, and then the artifacts are written one after the other. -/
example :
    ((toDirectory World.host ⟨"source", "manifest", "readme"⟩ ⟨"out"⟩ ⟨false, false⟩).on
      (.ofTree ⟨[], []⟩ "")).2.tree.nodes =
      [(["out", "README.md"], .file 2 (.text "readme")),
        (["out", "mcp.json"], .file 1 (.text "manifest")),
        (["out", "server.py"], .file 0 (.text "source")), (["out"], .directory)] := by
  decide +kernel

/-- A directory in the place of the manifest stops a forced export after its first file. -/
example :
    ((toDirectory World.host ⟨"source", "manifest", "readme"⟩ ⟨"out"⟩ ⟨true, false⟩).on
      (.ofTree ⟨[(["out"], .directory), (["out", "mcp.json"], .directory)], []⟩
        "")).2.tree.nodes =
      [(["out", "server.py"], .file 0 (.text "source")), (["out"], .directory),
        (["out", "mcp.json"], .directory)] := by
  decide +kernel

/-! ## What paths do not show -/

end Export

end ToolScaffold
