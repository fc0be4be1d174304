import ToolScaffold.Disk
import ToolScaffold.Record.Document
import ToolScaffold.Template.Basic
import ToolScaffold.Validation

/-!
# Errors

Everything that can end a command.
-/

namespace ToolScaffold

/-- The names of project files in a directory, in the order in which they are looked for. -/
def projectFiles : List String := ["toolsmith.json", "toolsmith.yaml", "toolsmith.yml"]

inductive Error where
  | disk (fault : DiskFault)
  | document (error : DocumentError)
  | unsupportedHandler (error : UnsupportedHandler)
  | noProjectFile (directory : Path)
  | invalid (problems : List Problem)
  | template (fault : Template.Fault)
  | outputExists (output : Path)

/-- The message about a text that is no JSON. -/
def Json.ReadError.report (e : Json.ReadError) : String :=
  "Failed to parse JSON. Original error: " ++ e.message

def UnsupportedHandler.message (e : UnsupportedHandler) : String :=
  "Tool " ++ quotedName e.tool ++ " has unsupported handler type " ++ quotedName e.handler ++
    ". Expected 'static' or 'api'."

def DocumentError.message : DocumentError → String
  | json error => error.report
  | yaml => "Failed to parse YAML."
  | shape violations => "Invalid project definition: " ++ Json.Violation.report violations
  | record cause => "Failed to parse JSON. Original error: " ++ cause.message

def Error.message : Error → String
  | disk (.unfinished reason) => "Failed to build archive. Original error: " ++ reason
  | disk fault => "IO error: " ++ fault.message ++ "."
  | document error => error.message
  | unsupportedHandler error => error.message
  | noProjectFile directory =>
    "No project file found in " ++ quotedName directory.text ++ ". Tried: " ++
      ", ".intercalate projectFiles ++ "."
  | invalid problems =>
    "Project validation failed:\n" ++ "\n".intercalate (problems.map Problem.message)
  | template _ => "Failed to render."
  | outputExists output =>
    "Cannot proceed: output " ++ quotedName output.text ++
      " already exists. Use --force to overwrite it."

end ToolScaffold
