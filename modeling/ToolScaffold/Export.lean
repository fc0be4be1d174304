import ToolScaffold.Host
import ToolScaffold.Server.Artifacts

/-!
# Exports

The artifacts of a project are laid out in a directory, or bundled into an archive in it. First it is
planned what to write where; then the plan is carried out, or, for a dry run, only noted.
-/

namespace ToolScaffold

structure ExportOptions where
  /-- Write over a directory or an archive that is there. -/
  force : Bool
  /-- Note what would be written, and write nothing. -/
  dryRun : Bool
  deriving DecidableEq, Repr

/-- The names of the artifacts, with their texts, in the order in which they are written. -/
def Artifacts.entries (a : Artifacts) : List (String × String) :=
  [("server.py", a.source), ("mcp.json", a.manifest), ("README.md", a.readme)]

/-- What stands for a name that is blank in the name of an archive. -/
def defaultSlug : String := "project"

/-- The part of an archive's name that stands for the project. -/
def slugOf (name : String) : String :=
  let slug := (Identifier.derive (Text.trim name)).toList.map fun c =>
    if Identifier.isPart c then c else '_'
  if slug.isEmpty then defaultSlug else String.ofList slug

def archiveName (name : String) : String := "mcp_project_" ++ slugOf name ++ ".zip"

/-! ## Operations -/

inductive Operation where
  | write (target : Path) (content : String) (targetExists : Bool)
  | archive (target : Path) (entries : List (String × String)) (targetExists : Bool)
  deriving DecidableEq, Repr

namespace Operation

def target : Operation → Path
  | write target _ _ => target
  | archive target _ _ => target

/-- What stands before messages of a dry run. -/
def dryMark (dryRun : Bool) : String := if dryRun then "[DRY RUN] " else ""

/-- What stands after messages about a file that is written over. -/
def overwriteMark (targetExists : Bool) : String :=
  if targetExists then " (overwriting existing file)" else ""

def message (dryRun : Bool) : Operation → String
  | write target _ targetExists =>
    dryMark dryRun ++ "Writing to " ++ quotedName target.text ++ overwriteMark targetExists
  | archive target entries targetExists =>
    dryMark dryRun ++ "Archiving " ++ ", ".intercalate (entries.map Prod.fst) ++ " into " ++
      quotedName target.text ++ overwriteMark targetExists

/-- A truth value as it is spelt out. -/
def spelt (b : Bool) : String := if b then "true" else "false"

def description : Operation → String
  | write target content targetExists =>
    "Write \x7b target: " ++ Text.quotedStrictly target.text ++ ", content: " ++
      Text.quoted content ++ ", target_exists: " ++ spelt targetExists ++ " \x7d"
  | archive target entries targetExists =>
    "Archive \x7b target: " ++ Text.quotedStrictly target.text ++ ", entries: [" ++
      ", ".intercalate (entries.map fun e =>
        "(" ++ Text.quoted e.1 ++ ", " ++ Text.quoted e.2 ++ ")") ++
      "], target_exists: " ++ spelt targetExists ++ " \x7d"

end Operation

namespace Export

variable {m : Type → Type} [Monad m]

/-- Writes what the operation says, with the directories above it. -/
def perform (host : Host m) (op : Operation) : Action m Unit := do
  Host.attempt (host.disk.makeParents op.target)
  match op with
  | .write target content _ => Host.attempt (host.disk.writeText target content)
  | .archive target entries _ => Host.attempt (host.disk.writeArchive target entries)

/-- Carries an operation out, unless for a dry run, and notes it. -/
def apply (host : Host m) (dryRun : Bool) (op : Operation) : Action m Path := do
  host.say .debug .exporting ("Handling export operation: " ++ op.description)
  if !dryRun then perform host op
  host.say .info .exporting (op.message dryRun)
  return op.target

/-- Refuses an output that is there, unless forced. -/
def checkOutput (host : Host m) (force : Bool) (output : Path) : Action m Unit := do
  if (← host.disk.isThere output) && !force then throw (.outputExists output)

/-- The operations that lay artifacts out in a directory. -/
def plan (host : Host m) (output : Path) :
    List (String × String) → m (List Operation)
  | [] => return []
  | (name, content) :: rest => do
    let target := output.join name
    let targetExists ← host.disk.isThere target
    return .write target content targetExists :: (← plan host output rest)

/-- Carries operations out one after the other, and answers what was written. -/
def applyAll (host : Host m) (dryRun : Bool) : List Operation → Action m (List Path)
  | [] => return []
  | op :: rest => do
    let target ← apply host dryRun op
    return target :: (← applyAll host dryRun rest)

/-- Lays artifacts out in a directory. -/
def toDirectory (host : Host m) (artifacts : Artifacts) (output : Path)
    (options : ExportOptions) : Action m (List Path) := do
  checkOutput host options.force output
  let operations ← ExceptT.lift (plan host output artifacts.entries)
  applyAll host options.dryRun operations

/-- Bundles artifacts into an archive inside of a directory. -/
def toArchive (host : Host m) (artifacts : Artifacts) (name : String) (output : Path)
    (options : ExportOptions) : Action m Path := do
  let target := output.join (archiveName name)
  checkOutput host options.force target
  let targetExists ← host.disk.isThere target
  apply host options.dryRun (.archive target artifacts.entries targetExists)

end Export

end ToolScaffold
