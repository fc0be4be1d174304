import ToolScaffold.Command
import ToolScaffold.Proofs.Host
import ToolScaffold.Proofs.Server.Assembly

/-!
# Exports are gated by validation

Both commands load a project and validate it. `export_gated` says, for every machine and all
arguments, where their runs part: what loading ends with ends both; problems end both, unless an
export is told to skip validation; and every other export does what laying out or bundling the
project's artifacts does, and prints its summary if that succeeds. Skipping the validation of a
project without problems changes nothing at all.

Loading only looks at the disk (`runs_loadProject`), and an export depends on nothing but the disk
and never ends with the problems of a project (`runs_delivery`), so it does on the machine that
loading leaves what it does on the machine from before.
-/

namespace ToolScaffold

namespace Command

/-! ## Loading -/

section Loading

variable {P : Error → Prop} (hP : ∀ e, P e)

include hP in
theorem runs_projectFile (p : Path) : Runs .none P (Source.projectFile World.host p) := by
  unfold Source.projectFile
  refine (Runs.monadLift (OnDisk.isDirectory p).acts).bind fun found => ?_
  cases found with
  | true =>
    refine (Runs.monadLift (OnDisk.firstFile p projectFiles).acts).bind fun file => ?_
    cases file with
    | some file => exact .pure file
    | none => exact .throw (hP _)
  | false => exact .pure p

include hP in
theorem runs_load (source : String) : Runs .none P (Source.load World.host source) := by
  have hparsed : ∀ parsed, Runs .none P (Source.ofParsed parsed : Action (StateM World) _) :=
    fun _ => .of_result fun e _ => hP e
  unfold Source.load
  split
  · refine (Runs.say _ _ _).bind fun _ => ?_
    exact (Runs.attempt .readInput fun _ => hP _).bind fun _ => hparsed _
  · refine (runs_projectFile hP _).bind fun file => ?_
    refine (Runs.say _ _ _).bind fun _ => ?_
    exact (Runs.attempt (OnDisk.readText file).acts fun _ => hP _).bind fun _ => hparsed _

include hP in
theorem runs_convert (record : ProjectRecord) : Runs .none P (Source.convert World.host record) := by
  unfold Source.convert
  refine (Runs.sayAll _ _ _).bind fun _ => ?_
  split
  · exact .throw (hP _)
  · exact (Runs.say _ _ _).bind fun _ => .pure _

include hP in
/-- **Loading** leaves the disk as it is and prints nothing. -/
theorem runs_loadProject (source : String) : Runs .none P (Source.loadProject World.host source) :=
  (runs_load hP source).bind fun record => runs_convert hP record

end Loading

/-! ## Delivering -/

/-- The error is not that a project has problems. -/
def IsNoRefusal (e : Error) : Prop := ∀ problems, e ≠ .invalid problems

theorem isNoRefusal_disk (fault : DiskFault) : IsNoRefusal (.disk fault) := by
  intro problems h
  cases h

/-- Bundles the artifacts into an archive, or lays them out in a directory, as the arguments say. -/
def delivery (args : ExportArgs) (p : Project) (artifacts : Artifacts) :
    Action (StateM World) (List Path) :=
  if args.zip then do
    return [← Export.toArchive World.host artifacts p.name args.outputDirectory
      ⟨args.force, args.dryRun⟩]
  else Export.toDirectory World.host artifacts args.outputDirectory ⟨args.force, args.dryRun⟩

theorem runs_perform (op : Operation) : Runs .any IsNoRefusal (Export.perform World.host op) := by
  unfold Export.perform
  refine (Runs.attempt (OnDisk.makeParents ?_).acts isNoRefusal_disk).bind fun _ => ?_
  · exact fun _ _ => .makeDirectory fun _ => trivial
  cases op with
  | write => exact .attempt (OnDisk.writeText fun _ _ => trivial).acts isNoRefusal_disk
  | archive => exact .attempt (OnDisk.writeArchive fun _ _ => trivial).acts isNoRefusal_disk

theorem runs_apply (dryRun : Bool) (op : Operation) :
    Runs .any IsNoRefusal (Export.apply World.host dryRun op) := by
  have hnoted : Runs .any IsNoRefusal (do
      World.host.say .info .exporting (op.message dryRun)
      return op.target) := (Runs.say _ _ _).bind fun _ => .pure _
  unfold Export.apply
  refine (Runs.say _ _ _).bind fun _ => ?_
  cases dryRun with
  | true => exact hnoted
  | false => exact (runs_perform op).bind fun _ => hnoted

theorem runs_applyAll (dryRun : Bool) (ops : List Operation) :
    Runs .any IsNoRefusal (Export.applyAll World.host dryRun ops) := by
  induction ops with
  | nil => exact .pure _
  | cons op rest ih => exact (runs_apply dryRun op).bind fun _ => ih.bind fun _ => .pure _

theorem runs_checkOutput (force : Bool) (output : Path) :
    Runs .any IsNoRefusal (Export.checkOutput World.host force output) := by
  unfold Export.checkOutput
  refine (Runs.monadLift (OnDisk.isThere output).acts).bind fun found => ?_
  split
  · refine .throw ?_
    intro problems h
    cases h
  · exact .pure _

theorem acts_plan (output : Path) (entries : List (String × String)) :
    Acts .any (Export.plan World.host output entries) := by
  induction entries with
  | nil => exact .pure _
  | cons entry rest ih => exact (OnDisk.isThere _).acts.bind fun _ => ih.bind fun _ => .pure _

/-- **Delivering** depends on nothing but the disk, and prints nothing. -/
theorem runs_delivery (args : ExportArgs) (p : Project) (artifacts : Artifacts) :
    Runs .any IsNoRefusal (delivery args p artifacts) := by
  unfold delivery
  split
  · unfold Export.toArchive
    refine Runs.bind ?_ fun _ => .pure _
    refine (runs_checkOutput _ _).bind fun _ => ?_
    exact (Runs.monadLift (OnDisk.isThere _).acts).bind fun _ => runs_apply _ _
  · unfold Export.toDirectory
    refine (runs_checkOutput _ _).bind fun _ => ?_
    exact (Runs.lift (acts_plan _ _)).bind fun _ => runs_applyAll _ _

/-! ## Both commands -/

/-- Loads the project of a source. -/
def loaded (source : String) (world : World) : Except Error Project × World :=
  (Source.loadProject World.host source).on world

def exported (args : ExportArgs) (world : World) : Except Error (List Path) × World :=
  (runExport World.host args).on world

def validated (source : String) (world : World) : Except Error Report × World :=
  (runValidate World.host source).on world

/-- Loading only makes notes. -/
theorem exists_notes_of_loaded (source : String) (world : World) :
    ∃ notes, (loaded source world).2 = world.after world.tree notes := by
  have hruns : Runs .none (fun _ => True) (Source.loadProject World.host source) :=
    runs_loadProject (fun _ => trivial) source
  obtain ⟨r, tree, notes, rfl, hw, -⟩ := hruns.acts world world rfl rfl rfl
  exact ⟨notes, congrArg Prod.snd hw⟩

/-- The notes about the warnings of a project. -/
def warningNotes (p : Project) : List Note :=
  p.validate.warnings.map fun warning => ⟨.warn, .command, warning.message⟩

/-- The notes about problems that are passed over. -/
def ignoredNotes (p : Project) : List Note :=
  p.validate.problems.map fun problem =>
    ⟨.warn, .command, "Ignoring validation error: " ++ problem.message⟩

/-- The note that a project is made into artifacts. -/
def generatingNote (p : Project) : Note :=
  ⟨.debug, .generator, "Generating project " ++ quotedName p.name ++ " with " ++
    count p.tools.length ++ " tool(s)"⟩

/-- What an export prints at its end. -/
def summaryOf (args : ExportArgs) (p : Project) : Except Error (List Path) → List String
  | .ok _ => [exportSummary p args.outputDirectory args.dryRun]
  | .error _ => []

theorem on_accept_of_problems {r : Report} (h : r.problems ≠ []) (w : World) :
    (accept r : Action (StateM World) Report).on w = (.error (.invalid r.problems), w) := by
  have hvalid : r.isValid = false := by simpa [Report.isValid] using h
  simp [accept, Report.accept, hvalid, Action.on]
  rfl

theorem on_accept_of_valid {r : Report} (h : r.problems = []) (w : World) :
    (accept r : Action (StateM World) Report).on w = (.ok r, w) := by
  have hvalid : r.isValid = true := by simp [Report.isValid, h]
  simp [accept, Report.accept, hvalid, Action.on]
  rfl

/-- What an export does with a project that may pass. -/
def finish (args : ExportArgs) (p : Project) : Action (StateM World) (List Path) := do
  let artifacts ← generate World.host p
  let written ← write World.host p artifacts args
  World.host.print (exportSummary p args.outputDirectory args.dryRun)
  return written

theorem runExport_of_skip {args : ExportArgs} (h : args.skipValidation = true) :
    runExport World.host args = (Source.loadProject World.host args.project >>= fun p => do
      World.host.sayAll .warn .command (p.validate.warnings.map Warning.message)
      World.host.sayAll .warn .command
        (p.validate.problems.map fun problem => "Ignoring validation error: " ++ problem.message)
      finish args p) := by
  simp only [runExport, h, ↓reduceIte]
  rfl

theorem runExport_of_check {args : ExportArgs} (h : args.skipValidation = false) :
    runExport World.host args = (Source.loadProject World.host args.project >>= fun p => do
      World.host.sayAll .warn .command (p.validate.warnings.map Warning.message)
      let _ ← accept p.validate
      finish args p) := by
  simp only [runExport, h, Bool.false_eq_true, ↓reduceIte]
  rfl

/-- An export ends as loading does, if that fails. -/
theorem exported_of_error {args : ExportArgs} {world after : World} {e : Error}
    (h : loaded args.project world = (.error e, after)) : exported args world = (.error e, after) :=
  Action.on_bind_of_error h

theorem validated_of_error {source : String} {world after : World} {e : Error}
    (h : loaded source world = (.error e, after)) : validated source world = (.error e, after) :=
  Action.on_bind_of_error h

theorem on_printAll (lines : List String) (w : World) :
    (printAll World.host lines).on w = (.ok (), { w with printed := w.printed ++ lines }) := by
  induction lines generalizing w with
  | nil =>
    rw [List.append_nil]
    rfl
  | cons line rest ih =>
    have hline : Action.on (liftM (World.host.print line)) w =
        (.ok (), { w with printed := w.printed ++ [line] }) := rfl
    rw [printAll, Action.on_bind_of_ok hline, ih, List.append_assoc]
    rfl

theorem validated_of_problems {source : String} {world after : World} {p : Project}
    (hload : loaded source world = (.ok p, after)) (hp : p.validate.problems ≠ []) :
    (validated source world).1 = .error (.invalid p.validate.problems) := by
  rw [validated, runValidate, Action.on_bind_of_ok hload,
    Action.on_bind_of_ok (on_printAll _ after), on_accept_of_problems hp]

section Loaded

variable {args : ExportArgs} {world after : World} {p : Project}
  (hload : loaded args.project world = (.ok p, after))

include hload in
theorem exported_of_problems (hskip : args.skipValidation = false) (hp : p.validate.problems ≠ []) :
    exported args world =
      (.error (.invalid p.validate.problems), after.after after.tree (warningNotes p)) := by
  rw [exported, runExport_of_check hskip, Action.on_bind_of_ok hload,
    Action.on_bind_of_ok (Action.on_sayAll _ _ _ _), List.map_map,
    Action.on_bind_of_error (on_accept_of_problems hp _)]
  rfl

include hload in
theorem exported_of_pass (hpass : p.validate.problems = [] ∨ args.skipValidation = true) :
    exported args world =
      (finish args p).on (after.after after.tree (warningNotes p ++ ignoredNotes p)) := by
  cases hskip : args.skipValidation with
  | true =>
    rw [exported, runExport_of_skip hskip, Action.on_bind_of_ok hload,
      Action.on_bind_of_ok (Action.on_sayAll _ _ _ _),
      Action.on_bind_of_ok (Action.on_sayAll _ _ _ _), World.after_after, List.map_map,
      List.map_map]
    rfl
  | false =>
    have hp : p.validate.problems = [] := by
      rcases hpass with hp | hskip'
      · exact hp
      · rw [hskip] at hskip'
        cases hskip'
    rw [exported, runExport_of_check hskip, Action.on_bind_of_ok hload,
      Action.on_bind_of_ok (Action.on_sayAll _ _ _ _), List.map_map,
      Action.on_bind_of_ok (on_accept_of_valid hp _), ignoredNotes, hp, List.map_nil,
      List.append_nil]
    rfl

end Loaded

theorem on_generate {p : Project} {artifacts : Artifacts} (h : p.artifacts = .ok artifacts)
    (w : World) :
    (generate World.host p).on w = (.ok artifacts, w.after w.tree [generatingNote p]) := by
  rw [generate, Action.on_bind_of_ok (Action.on_say _ _ _ w), h]
  rfl

theorem write_eq_delivery (args : ExportArgs) (p : Project) (artifacts : Artifacts) :
    write World.host p artifacts args = delivery args p artifacts := rfl

/-- The rest of an export does what delivering does on any machine with the same disk and input, and
prints the summary if that succeeds. -/
theorem on_finish (args : ExportArgs) (p : Project) {w v : World} (hlimits : w.limits = v.limits)
    (htree : w.tree = v.tree) (hinput : w.input = v.input) :
    ∃ artifacts r tree notes, p.artifacts = .ok artifacts ∧
      (delivery args p artifacts).on v = (r, v.after tree notes) ∧
      (∀ e, r = .error e → IsNoRefusal e) ∧
      (finish args p).on w = (r, { w.after tree (generatingNote p :: notes) with
        printed := w.printed ++ summaryOf args p r }) := by
  obtain ⟨artifacts, hartifacts⟩ : ∃ artifacts, p.artifacts = .ok artifacts :=
    ⟨_, p.artifacts_eq⟩
  have hruns := runs_delivery args p artifacts
  obtain ⟨r, tree, notes, -, hw, hv⟩ :=
    hruns.acts (w.after w.tree [generatingNote p]) v hlimits htree hinput
  have hfails : ∀ e, r = .error e → IsNoRefusal e := by
    intro e he
    refine hruns.fails (w := v) ?_
    rw [hv, he]
  refine ⟨artifacts, r, tree, notes, hartifacts, hv, hfails, ?_⟩
  rw [finish, Action.on_bind_of_ok (on_generate hartifacts w), write_eq_delivery]
  cases r with
  | ok written =>
    rw [Action.on_bind_of_ok hw, World.after_after]
    rfl
  | error e =>
    rw [Action.on_bind_of_error hw, World.after_after]
    simp [summaryOf, World.after]

/-! ## The gate -/

/-- What a run of an export, and one of a validation of the same project, have to do with each
other and with what loading, validating and delivering do by themselves. -/
structure Gated (args : ExportArgs) (world : World) : Prop where
  /-- What loading fails with ends both commands; nothing is written and nothing is printed. -/
  not_loaded : ∀ {e after}, loaded args.project world = (.error e, after) →
    exported args world = (.error e, after) ∧ validated args.project world = (.error e, after) ∧
      after.tree = world.tree ∧ after.printed = world.printed
  /-- Problems end a validation, and an export that does not skip it before anything is written or
  printed. -/
  refused : ∀ {p after}, loaded args.project world = (.ok p, after) → p.validate.problems ≠ [] →
    (validated args.project world).1 = .error (.invalid p.validate.problems) ∧
      (args.skipValidation = false → ∃ final,
        exported args world = (.error (.invalid p.validate.problems), final) ∧
          final.tree = world.tree ∧ final.printed = world.printed)
  /-- Every other export ends as delivering the artifacts does and leaves the same disk. Only the
  summary is printed, and that if something was delivered. The notes are those of loading, the
  warnings, the problems that are passed over, and those of delivering. -/
  delivered : ∀ {p after}, loaded args.project world = (.ok p, after) →
    (p.validate.problems = [] ∨ args.skipValidation = true) →
    ∃ artifacts r tree notes, p.artifacts = .ok artifacts ∧
      (delivery args p artifacts).on world = (r, world.after tree notes) ∧
      (∀ problems, r ≠ .error (.invalid problems)) ∧
      exported args world = (r, { world with
        tree
        printed := world.printed ++ summaryOf args p r
        journal := after.journal ++ warningNotes p ++ ignoredNotes p ++
          generatingNote p :: notes })
  /-- Skipping the validation of a project without problems changes nothing. -/
  skip_eq : ∀ {p after}, loaded args.project world = (.ok p, after) → p.validate.problems = [] →
    exported { args with skipValidation := true } world =
      exported { args with skipValidation := false } world

/-- **Exports are gated by validation**, whatever the machine and the arguments are. -/
theorem export_gated (args : ExportArgs) (world : World) : Gated args world := by
  obtain ⟨noted, hnoted⟩ := exists_notes_of_loaded args.project world
  constructor
  case not_loaded =>
    intro e after hload
    rw [hload] at hnoted
    subst hnoted
    exact ⟨exported_of_error hload, validated_of_error hload, rfl, rfl⟩
  case refused =>
    intro p after hload hp
    rw [hload] at hnoted
    subst hnoted
    refine ⟨validated_of_problems hload hp, ?_⟩
    intro hskip
    exact ⟨_, exported_of_problems hload hskip hp, rfl, rfl⟩
  case delivered =>
    intro p after hload hpass
    rw [hload] at hnoted
    subst hnoted
    obtain ⟨artifacts, r, tree, notes, hartifacts, hdelivery, hfails, hfinish⟩ :=
      on_finish (w := (world.after world.tree noted).after world.tree
        (warningNotes p ++ ignoredNotes p)) (v := world) args p rfl rfl rfl
    refine ⟨artifacts, r, tree, notes, hartifacts, hdelivery, ?_, ?_⟩
    · intro problems hr
      exact hfails _ hr problems rfl
    · refine (exported_of_pass hload hpass).trans (hfinish.trans ?_)
      simp [World.after]
  case skip_eq =>
    intro p after hload hp
    have hpassed : ∀ skip, exported { args with skipValidation := skip } world =
        (finish args p).on (after.after after.tree (warningNotes p ++ ignoredNotes p)) := by
      intro skip
      exact exported_of_pass hload (.inl hp)
    rw [hpassed, hpassed]

end Command

end ToolScaffold
