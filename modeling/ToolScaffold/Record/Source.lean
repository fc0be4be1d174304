import ToolScaffold.Host

/-!
# Sources of projects

A project is read from a file, from a directory with a project file in it, or from the input. The
name of the file tells the format; what comes from the input is JSON.
-/

namespace ToolScaffold

/-- The source that stands for the input. -/
def inputMark : String := "-"

def Format.ofPath (p : Path) : Format :=
  if p.extension? = some "yaml" ∨ p.extension? = some "yml" then .yaml else .json

namespace Source

variable {m : Type → Type} [Monad m]

/-- The project file that a path stands for: its own, or the one in the directory. -/
def projectFile (host : Host m) (p : Path) : Action m Path := do
  if ← host.disk.isDirectory p then
    match ← host.disk.firstFile p projectFiles with
    | some file => return file
    | none => throw (.noProjectFile p)
  else return p

/-- A project that was parsed. -/
def ofParsed (parsed : Except DocumentError ProjectRecord) : Action m ProjectRecord :=
  ExceptT.mk (pure (parsed.mapError .document))

def load (host : Host m) (source : String) : Action m ProjectRecord := do
  if source = inputMark then
    host.say .debug .source "Reading project definition from stdin"
    let text ← Host.attempt host.readInput
    ofParsed (ProjectRecord.parse .json text)
  else
    let file ← projectFile host ⟨source⟩
    host.say .debug .source ("Reading project definition from " ++ quotedName file.text)
    let text ← Host.attempt (host.disk.readText file)
    ofParsed (ProjectRecord.parse (.ofPath file) text)

/-- The project that a record stands for, with notes about what was set aside. -/
def convert (host : Host m) (record : ProjectRecord) : Action m Project := do
  let (project, warnings) := record.toProject
  host.sayAll .warn .record (warnings.map SchemaWarning.message)
  match project with
  | .error error => throw (.unsupportedHandler error)
  | .ok project =>
    host.say .debug .record ("Converted project " ++ quotedName project.name ++ " with " ++
      String.ofList (Json.natChars project.tools.length) ++ " tool(s)")
    return project

def loadProject (host : Host m) (source : String) : Action m Project := do
  convert host (← load host source)

end Source

end ToolScaffold
