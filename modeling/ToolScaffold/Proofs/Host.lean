import ToolScaffold.Host
import ToolScaffold.Proofs.Disk.Tree

/-!
# What actions do to a machine

An operation of the disk depends on nothing but the disk, and leaves the rest of the machine as it
is; `OnDisk change x` says this of an operation, and that it changes the disk only as `change`
allows.
An action that prints nothing does to a machine what the disk and the input make it do: whatever was
printed and noted before, it ends in the same way, leaves the same disk, and puts the same notes
behind those that are there. `Acts change x` says this of an operation, and `Runs change P x` of an
action, and that it fails only with errors of `P`. All three are kept by doing one thing after the
other (`OnDisk.bind`, `Acts.bind`, `Runs.bind`), so that a command follows from its parts.

Making the directories above a path tries them from the inside out and may stop at any of them; in
whichever way it fails, one of them is missing on the disk that it leaves, and the disk refuses to
make it (`blocks_of_makeParents`).
-/

namespace ToolScaffold

/-! ## Changes of a disk -/

/-- Which trees may come after which on a disk with limits. -/
structure Change where
  Allows : Limits → Tree → Tree → Prop
  refl : ∀ limits t, Allows limits t t
  trans : ∀ {limits s t u}, Allows limits s t → Allows limits t u → Allows limits s u

namespace Change

/-- The disk stays as it is. -/
def none : Change := ⟨fun _ => Eq, fun _ _ => rfl, Eq.trans⟩

/-- Anything may happen to the disk. -/
def any : Change := ⟨fun _ _ _ => True, fun _ _ => trivial, fun _ _ => trivial⟩

end Change

namespace World

/-- The machine with another disk and more notes. -/
def after (world : World) (tree : Tree) (notes : List Note) : World :=
  { world with tree, journal := world.journal ++ notes }

theorem after_after (world : World) (s t : Tree) (notes more : List Note) :
    (world.after s notes).after t more = world.after t (notes ++ more) := by
  simp [after]

theorem after_tree_nil {world : World} {tree : Tree} (h : world.tree = tree) :
    world.after tree [] = world := by
  subst h
  simp [after]

end World

/-! ## Operations of the disk -/

variable {α β : Type} {change : Change}

/-- The operation depends on the disk alone, and changes nothing but the disk. -/
def OnDisk (change : Change) (x : StateM World α) : Prop :=
  ∀ limits t, ∃ a t', change.Allows limits t t' ∧
    ∀ w : World, w.limits = limits → w.tree = t → x.run w = (a, w.after t' [])

/-- A change of the disk of a machine. -/
theorem World.run_change (f : World → Except DiskFault Unit × Tree) (w : World) :
    (Tree.change (fun world tree => { world with tree }) f).run w =
      ((f w).1, w.after (f w).2 []) := by
  simp [Tree.change, after]
  rfl

namespace OnDisk

/-- An operation that only looks at the disk. -/
theorem of_read {x : StateM World α} (read : Limits → Tree → α)
    (h : ∀ w, x.run w = (read w.limits w.tree, w)) : OnDisk change x := by
  intro limits t
  refine ⟨read limits t, t, change.refl limits t, ?_⟩
  rintro w rfl rfl
  rw [World.after_tree_nil rfl]
  exact h w

protected theorem pure (a : α) : OnDisk change (pure a) := of_read (fun _ _ => a) fun _ => rfl

protected theorem bind {x : StateM World α} {f : α → StateM World β} (hx : OnDisk change x)
    (hf : ∀ a, OnDisk change (f a)) : OnDisk change (x >>= f) := by
  intro limits t
  obtain ⟨a, s, hs, hx⟩ := hx limits t
  obtain ⟨b, u, hu, hf⟩ := hf a limits s
  refine ⟨b, u, change.trans hs hu, ?_⟩
  intro w hlimits hw
  rw [StateT.run_bind, hx w hlimits hw]
  refine (hf (w.after s []) hlimits rfl).trans ?_
  rw [World.after_after, List.append_nil]

/-- An operation that changes the disk. -/
theorem of_change {f : Limits → Tree → Except DiskFault Unit × Tree}
    (h : ∀ limits t, change.Allows limits t (f limits t).2) :
    OnDisk change (Tree.change (fun world tree => { world with tree })
      fun world : World => f world.limits world.tree) := by
  intro limits t
  refine ⟨(f limits t).1, (f limits t).2, h limits t, ?_⟩
  rintro w rfl rfl
  exact World.run_change _ w

theorem run_kind? (p : Path) (w : World) : (World.host.disk.kind? p).run w =
    ((w.tree.lookup p w.limits).toOption.map fun entry => entry.kind, w) := by
  simp only [World.host, Tree.disk]
  cases h : w.tree.lookup p w.limits <;> simp [h] <;> rfl

theorem kind? (p : Path) : OnDisk change (World.host.disk.kind? p) :=
  .of_read (fun limits tree => (tree.lookup p limits).toOption.map fun entry => entry.kind)
    (run_kind? p)

theorem readText (p : Path) : OnDisk change (World.host.disk.readText p) :=
  .of_read (fun limits tree => tree.readText p limits) fun _ => rfl

theorem makeDirectory {p : Path} (h : ∀ {limits} {t t' : Tree},
      t.makeDirectory p limits = .ok t' → change.Allows limits t t') :
    OnDisk change (World.host.disk.makeDirectory p) := by
  refine of_change (f := fun limits t => t.settle (t.makeDirectory p limits)) fun limits t => ?_
  cases hmade : t.makeDirectory p limits with
  | ok t' => exact h hmade
  | error fault => exact change.refl limits t

theorem writeText {p : Path} {text : String}
    (h : ∀ limits (t : Tree), change.Allows limits t (t.save p (.text text) limits).2) :
    OnDisk change (World.host.disk.writeText p text) :=
  of_change h

theorem writeArchive {p : Path} {entries : List (String × String)}
    (h : ∀ limits (t : Tree), change.Allows limits t (t.save p (.archive entries) limits).2) :
    OnDisk change (World.host.disk.writeArchive p entries) := of_change h

/-! ### What a disk is asked in several steps -/

theorem run_isThere (p : Path) (w : World) :
    (World.host.disk.isThere p).run w = ((w.tree.lookup p w.limits).isOk, w) := by
  rw [Disk.isThere, StateT.run_bind, run_kind?]
  cases w.tree.lookup p w.limits <;> rfl

theorem isThere (p : Path) : OnDisk change (World.host.disk.isThere p) :=
  (kind? p).bind fun _ => .pure _

theorem isFile (p : Path) : OnDisk change (World.host.disk.isFile p) :=
  (kind? p).bind fun _ => .pure _

theorem isDirectory (p : Path) : OnDisk change (World.host.disk.isDirectory p) :=
  (kind? p).bind fun _ => .pure _

theorem firstFile (directory : Path) (names : List String) :
    OnDisk change (World.host.disk.firstFile directory names) := by
  induction names with
  | nil => exact .pure _
  | cons name rest ih =>
    rw [Disk.firstFile]
    refine (isFile _).bind fun found => ?_
    cases found with
    | true => exact .pure _
    | false => exact ih

theorem ensureDirectory {p : Path} (hmake : OnDisk change (World.host.disk.makeDirectory p)) :
    OnDisk change (World.host.disk.ensureDirectory p) := by
  refine hmake.bind fun made => ?_
  split
  · exact (isDirectory p).bind fun _ => .pure _
  · exact .pure _

theorem ensureAll {paths : List Path}
    (hmake : ∀ p ∈ paths, OnDisk change (World.host.disk.makeDirectory p)) :
    OnDisk change (World.host.disk.ensureAll paths) := by
  induction paths with
  | nil => exact .pure _
  | cons p rest ih =>
    rw [List.forall_mem_cons] at hmake
    rw [Disk.ensureAll]
    refine (ensureDirectory hmake.1).bind fun made => ?_
    cases made with
    | ok => exact ih hmake.2
    | error => exact .pure _

theorem ensureNested {paths missing : List Path}
    (hmake : ∀ p ∈ paths, OnDisk change (World.host.disk.makeDirectory p))
    (hmissing : ∀ p ∈ missing, OnDisk change (World.host.disk.makeDirectory p)) :
    OnDisk change (World.host.disk.ensureNested paths missing) := by
  induction paths generalizing missing with
  | nil => exact ensureAll hmissing
  | cons p outer ih =>
    rw [List.forall_mem_cons] at hmake
    rw [Disk.ensureNested]
    refine (ensureDirectory hmake.1).bind fun made => ?_
    split
    · exact ensureAll hmissing
    · exact ih hmake.2 (List.forall_mem_cons.mpr ⟨hmake.1, hmissing⟩)
    · exact .pure _

theorem makeParents {p : Path}
    (hmake : ∀ q ∈ p.above, OnDisk change (World.host.disk.makeDirectory q)) :
    OnDisk change (World.host.disk.makeParents p) :=
  ensureNested hmake (by simp)

end OnDisk

/-! ## Making directories -/

section Directories

variable {p : Path} {w w' : World} {fault : DiskFault}

theorem run_isDirectory (p : Path) (w : World) : (World.host.disk.isDirectory p).run w =
    (decide ((w.tree.lookup p w.limits).toOption = some .directory), w) := by
  rw [Disk.isDirectory, StateT.run_bind, OnDisk.run_kind?]
  cases w.tree.lookup p w.limits with
  | error fault => rfl
  | ok entry => cases entry <;> rfl

theorem run_makeDirectory (p : Path) (w : World) : (World.host.disk.makeDirectory p).run w =
    match w.tree.makeDirectory p w.limits with
    | .ok tree => (.ok (), w.after tree [])
    | .error fault => (.error fault, w) := by
  have hrun : (World.host.disk.makeDirectory p).run w = _ := World.run_change _ w
  rw [hrun]
  cases w.tree.makeDirectory p w.limits with
  | ok tree => rfl
  | error fault => exact congrArg (Prod.mk _) (World.after_tree_nil rfl)

/-- **Making a directory** makes it, or finds it there, or is refused where there is none. -/
theorem run_ensureDirectory (p : Path) (w : World) :
    (∃ tree, w.tree.makeDirectory p w.limits = .ok tree ∧
      (World.host.disk.ensureDirectory p).run w = (.ok (), w.after tree [])) ∨
    (w.tree.lookup p w.limits = .ok .directory ∧
      (World.host.disk.ensureDirectory p).run w = (.ok (), w)) ∨
    ∃ fault, w.tree.Blocks w.limits p fault ∧
      (World.host.disk.ensureDirectory p).run w = (.error fault, w) := by
  rw [Disk.ensureDirectory, StateT.run_bind, run_makeDirectory]
  cases hmade : w.tree.makeDirectory p w.limits with
  | ok tree => exact .inl ⟨tree, rfl, rfl⟩
  | error refusal =>
    have hfound : (do
        return if ← World.host.disk.isDirectory p then .ok () else .error .alreadyExists :
          StateM World (Except DiskFault Unit)).run w =
        (if (w.tree.lookup p w.limits).toOption = some .directory then .ok ()
          else .error .alreadyExists, w) := by
      rw [StateT.run_bind, run_isDirectory]
      split <;> simp_all <;> rfl
    refine .inr ?_
    by_cases hthere : w.tree.lookup p w.limits = .ok .directory
    · rw [Tree.makeDirectory_of_lookup hthere] at hmade
      cases hmade
      rw [hthere] at hfound
      exact .inl ⟨hthere, hfound⟩
    · refine .inr ⟨refusal, ⟨hmade, hthere⟩, ?_⟩
      by_cases hexists : refusal = .alreadyExists
      · subst hexists
        refine hfound.trans (congrArg (·, w) (if_neg fun hsome => hthere ?_))
        cases hlookup : w.tree.lookup p w.limits with
        | error fault =>
          rw [hlookup] at hsome
          cases hsome
        | ok entry =>
          rw [hlookup] at hsome
          exact congrArg Except.ok (Option.some.inj hsome)
      · cases refusal <;> first | exact absurd rfl hexists | rfl

theorem blocks_of_ensureDirectory
    (h : (World.host.disk.ensureDirectory p).run w = (.error fault, w')) :
    w'.tree.Blocks w'.limits p fault := by
  obtain ⟨tree, -, hrun⟩ | ⟨-, hrun⟩ | ⟨refusal, hblocks, hrun⟩ := run_ensureDirectory p w
  · rw [hrun] at h
    cases h
  · rw [hrun] at h
    cases h
  · rw [hrun] at h
    cases h
    exact hblocks

theorem blocks_of_ensureAll {paths : List Path}
    (h : (World.host.disk.ensureAll paths).run w = (.error fault, w')) :
    ∃ p ∈ paths, w'.tree.Blocks w'.limits p fault := by
  induction paths generalizing w with
  | nil => cases h
  | cons p rest ih =>
    rw [Disk.ensureAll, StateT.run_bind] at h
    cases hmade : (World.host.disk.ensureDirectory p).run w with
    | mk made between =>
      rw [hmade] at h
      cases made with
      | ok =>
        obtain ⟨q, hq, hblocks⟩ := ih h
        exact ⟨q, List.mem_cons_of_mem p hq, hblocks⟩
      | error refusal =>
        cases h
        exact ⟨p, List.mem_cons_self, blocks_of_ensureDirectory hmade⟩

theorem blocks_of_ensureNested {paths missing : List Path}
    (h : (World.host.disk.ensureNested paths missing).run w = (.error fault, w')) :
    ∃ p ∈ paths ++ missing, w'.tree.Blocks w'.limits p fault := by
  induction paths generalizing w missing with
  | nil => exact blocks_of_ensureAll h
  | cons p outer ih =>
    rw [Disk.ensureNested, StateT.run_bind] at h
    cases hmade : (World.host.disk.ensureDirectory p).run w with
    | mk made between =>
      rw [hmade] at h
      cases made with
      | ok =>
        obtain ⟨q, hq, hblocks⟩ := blocks_of_ensureAll h
        exact ⟨q, List.mem_append_right _ hq, hblocks⟩
      | error refusal =>
        by_cases habsent : refusal = .notFound
        · subst habsent
          obtain ⟨q, hq, hblocks⟩ := ih h
          exact ⟨q, by simpa [or_left_comm] using hq, hblocks⟩
        · have hsame : ((.error refusal, between) : Except DiskFault Unit × World) =
              (.error fault, w') := by
            cases refusal <;> first | exact absurd rfl habsent | exact h
          cases hsame
          exact ⟨p, List.mem_cons_self, blocks_of_ensureDirectory hmade⟩

/-- If the directories above a path are not made, one of them is missing and cannot be made. -/
theorem blocks_of_makeParents (h : (World.host.disk.makeParents p).run w = (.error fault, w')) :
    ∃ q ∈ p.above, w'.tree.Blocks w'.limits q fault := by
  obtain ⟨q, hq, hblocks⟩ := blocks_of_ensureNested h
  exact ⟨q, by simpa using hq, hblocks⟩

end Directories

/-! ## Operations of the machine -/

/-- On machines with the same disk and the same input the operation does the same. -/
def Acts (change : Change) (x : StateM World α) : Prop :=
  ∀ w v : World, w.limits = v.limits → w.tree = v.tree → w.input = v.input → ∃ a tree notes,
    change.Allows w.limits w.tree tree ∧ x.run w = (a, w.after tree notes) ∧
      x.run v = (a, v.after tree notes)

theorem OnDisk.acts {x : StateM World α} (hx : OnDisk change x) : Acts change x := by
  intro w v hlimits htree _
  obtain ⟨a, tree, hallows, hx⟩ := hx w.limits w.tree
  exact ⟨a, tree, [], hallows, hx w rfl rfl, hx v hlimits.symm htree.symm⟩

namespace Acts

protected theorem pure (a : α) : Acts change (pure a) := (OnDisk.pure a).acts

protected theorem bind {x : StateM World α} {f : α → StateM World β} (hx : Acts change x)
    (hf : ∀ a, Acts change (f a)) : Acts change (x >>= f) := by
  intro w v hlimits htree hinput
  obtain ⟨a, tree, notes, hallows, hw, hv⟩ := hx w v hlimits htree hinput
  obtain ⟨b, tree', more, hallows', hw', hv'⟩ :=
    hf a (w.after tree notes) (v.after tree notes) hlimits rfl hinput
  refine ⟨b, tree', notes ++ more, change.trans hallows hallows', ?_, ?_⟩
  · rw [StateT.run_bind, hw, ← World.after_after]
    exact hw'
  · rw [StateT.run_bind, hv, ← World.after_after]
    exact hv'

theorem note (n : Note) : Acts change (World.host.note n) := by
  intro w v _ htree _
  refine ⟨(), w.tree, [n], change.refl _ _, rfl, ?_⟩
  rw [htree]
  rfl

theorem readInput : Acts change World.host.readInput := by
  intro w v _ htree hinput
  refine ⟨w.input.read, w.tree, [], change.refl _ _, ?_, ?_⟩
  · rw [World.after_tree_nil rfl]
    rfl
  · rw [World.after_tree_nil htree.symm, hinput]
    rfl

end Acts

/-! ## Actions -/

/-- Runs an action on a machine. -/
def Action.on (x : Action (StateM World) α) (world : World) : Except Error α × World :=
  x.run.run world

namespace Action

theorem on_bind_of_ok {x : Action (StateM World) α} {f : α → Action (StateM World) β} {w w' : World}
    {a : α} (h : x.on w = (.ok a, w')) : (x >>= f).on w = (f a).on w' := by
  unfold on at h ⊢
  rw [ExceptT.run_bind, StateT.run_bind, h]
  rfl

theorem on_bind_of_error {x : Action (StateM World) α} {f : α → Action (StateM World) β}
    {w w' : World} {e : Error} (h : x.on w = (.error e, w')) : (x >>= f).on w = (.error e, w') := by
  unfold on at h ⊢
  rw [ExceptT.run_bind, StateT.run_bind, h]
  rfl

theorem on_bind_lift {x : StateM World α} {f : α → Action (StateM World) β} {w w' : World} {a : α}
    (h : x.run w = (a, w')) : on (ExceptT.lift x >>= f) w = (f a).on w' := by
  refine on_bind_of_ok ?_
  change (Except.ok (x.run w).1, (x.run w).2) = _
  rw [h]

theorem on_bind_monadLift {x : StateM World α} {f : α → Action (StateM World) β} {w w' : World}
    {a : α} (h : x.run w = (a, w')) :
    on (monadLift x >>= f) w = (f a).on w' := on_bind_lift h

theorem on_attempt {x : StateM World (Except DiskFault α)} {r : Except DiskFault α}
    {w w' : World} (h : x.run w = (r, w')) : (Host.attempt x).on w = (r.mapError .disk, w') := by
  change ((x.run w).1.mapError Error.disk, (x.run w).2) = _
  rw [h]

theorem on_say (level : Level) (origin : Origin) (text : String) (w : World) :
    (World.host.say level origin text).on w =
      (.ok (), w.after w.tree [⟨level, origin, text⟩]) := rfl

theorem on_sayAll (level : Level) (origin : Origin) (texts : List String) (w : World) :
    (World.host.sayAll level origin texts).on w =
      (.ok (), w.after w.tree (texts.map fun text => ⟨level, origin, text⟩)) := by
  induction texts generalizing w with
  | nil =>
    rw [List.map_nil, World.after_tree_nil rfl]
    rfl
  | cons text rest ih =>
    rw [Host.sayAll, on_bind_of_ok (on_say level origin text w), ih, World.after_after]
    rfl

end Action

/-- The action acts on a machine, and it fails only with errors of `P`. -/
structure Runs (change : Change) (P : Error → Prop) (x : Action (StateM World) α) : Prop where
  acts : Acts change x.run
  fails : ∀ {w e}, (x.run.run w).1 = .error e → P e

namespace Runs

variable {P : Error → Prop}

protected theorem pure (a : α) : Runs change P (pure a) where
  acts := Acts.pure (Except.ok a)
  fails h := by cases h

theorem throw {e : Error} (he : P e) : Runs change P (throw e : Action (StateM World) α) where
  acts := Acts.pure (Except.error e)
  fails h := by
    cases h
    exact he

protected theorem bind {x : Action (StateM World) α} {f : α → Action (StateM World) β}
    (hx : Runs change P x) (hf : ∀ a, Runs change P (f a)) : Runs change P (x >>= f) where
  acts := by
    rw [ExceptT.run_bind]
    refine hx.acts.bind fun r => ?_
    cases r with
    | ok a => exact (hf a).acts
    | error e => exact Acts.pure (Except.error e)
  fails := by
    intro w e h
    rw [ExceptT.run_bind, StateT.run_bind] at h
    cases hr : x.run.run w with
    | mk r w' =>
      rw [hr] at h
      cases r with
      | ok a => exact (hf a).fails h
      | error e' =>
        cases h
        exact hx.fails (congrArg Prod.fst hr)

theorem of_result {r : Except Error α} (h : ∀ e, r = .error e → P e) :
    Runs change P (ExceptT.mk (pure r) : Action (StateM World) α) where
  acts := Acts.pure r
  fails heq := h _ heq

theorem lift {x : StateM World α} (hx : Acts change x) :
    Runs change P (ExceptT.lift x : Action (StateM World) α) where
  acts := hx.bind fun a => .pure (Except.ok a)
  fails h := by cases h

theorem monadLift {x : StateM World α} (hx : Acts change x) :
    Runs change P (monadLift x : Action (StateM World) α) := lift hx

theorem attempt {x : StateM World (Except DiskFault α)} (hx : Acts change x)
    (hdisk : ∀ fault, P (.disk fault)) : Runs change P (Host.attempt x) where
  acts := hx.bind fun r => .pure (r.mapError Error.disk)
  fails := by
    intro w e h
    change ((x.run w).1).mapError Error.disk = .error e at h
    cases hr : (x.run w).1 with
    | ok a =>
      rw [hr] at h
      cases h
    | error fault =>
      rw [hr] at h
      cases h
      exact hdisk fault

theorem say (level : Level) (origin : Origin) (text : String) :
    Runs change P (World.host.say level origin text) := lift (.note _)

theorem sayAll (level : Level) (origin : Origin) (texts : List String) :
    Runs change P (World.host.sayAll level origin texts) := by
  induction texts with
  | nil => exact .pure _
  | cons text rest ih => exact (say level origin text).bind fun _ => ih

end Runs

end ToolScaffold
