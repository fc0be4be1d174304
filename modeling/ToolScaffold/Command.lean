import ToolScaffold.Export
import ToolScaffold.Record.Source

/-!
# Commands

A project is exported or validated. Both load it and check it; an export goes on only with a project
that is usable, unless told otherwise.
-/

namespace ToolScaffold

structure ExportArgs where
  project : String
  outputDirectory : Path
  /-- Bundle the artifacts into an archive. -/
  zip : Bool
  force : Bool
  dryRun : Bool
  skipValidation : Bool
  deriving DecidableEq, Repr

inductive Command where
  | exporting (args : ExportArgs)
  | validating (project : String)
  deriving DecidableEq, Repr

namespace Command

variable {m : Type → Type} [Monad m]

/-- A number in decimal. -/
def count (n : Nat) : String := String.ofList (Json.natChars n)

def generate (host : Host m) (p : Project) : Action m Artifacts := do
  host.say .debug .generator ("Generating project " ++ quotedName p.name ++ " with " ++
    count p.tools.length ++ " tool(s)")
  ExceptT.mk (pure (p.artifacts.mapError .template))

/-- Goes on only with a project that is usable. -/
def accept (r : Report) : Action m Report := ExceptT.mk (pure (r.accept.mapError .invalid))

/-- What is printed after an export. -/
def exportSummary (p : Project) (output : Path) (dryRun : Bool) : String :=
  Operation.dryMark dryRun ++ "Generated " ++ count p.tools.length ++ " tool(s) for " ++
    quotedName p.name ++ " in " ++ output.text ++ "."

def write (host : Host m) (p : Project) (artifacts : Artifacts) (args : ExportArgs) :
    Action m (List Path) := do
  let options : ExportOptions := ⟨args.force, args.dryRun⟩
  if args.zip then
    return [← Export.toArchive host artifacts p.name args.outputDirectory options]
  else Export.toDirectory host artifacts args.outputDirectory options

def runExport (host : Host m) (args : ExportArgs) : Action m (List Path) := do
  let p ← Source.loadProject host args.project
  let report := p.validate
  host.sayAll .warn .command (report.warnings.map Warning.message)
  if args.skipValidation then
    host.sayAll .warn .command
      (report.problems.map fun problem => "Ignoring validation error: " ++ problem.message)
  else
    let _ ← accept report
  let artifacts ← generate host p
  let written ← write host p artifacts args
  host.print (exportSummary p args.outputDirectory args.dryRun)
  return written

/-- The lines printed about a project that was checked. The problems are left to the error. -/
def validateSummary (p : Project) (r : Report) : List String :=
  r.warnings.map (fun warning => "warning: " ++ warning.message) ++
    if r.isValid then
      ["Project " ++ quotedName p.name ++ " is valid (" ++ count p.tools.length ++ " tool(s))."]
    else []

def printAll (host : Host m) : List String → Action m Unit
  | [] => return ()
  | line :: rest => do
    host.print line
    printAll host rest

def runValidate (host : Host m) (project : String) : Action m Report := do
  let p ← Source.loadProject host project
  let report := p.validate
  printAll host (validateSummary p report)
  accept report

def run (host : Host m) : Command → Action m Unit
  | .exporting args => do let _ ← runExport host args
  | .validating project => do let _ ← runValidate host project

end Command

end ToolScaffold
