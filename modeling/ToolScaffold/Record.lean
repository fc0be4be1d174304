import ToolScaffold.Text.Blank
import ToolScaffold.Tool.Basic

/-!
# Records

A project as it is stored: a tool's handler is free text, and its input schema is an object, the
text of one, or missing. Turning records into tools fails at the first handler that does not exist;
an input schema that cannot be used becomes the empty one, with a warning.
-/

namespace ToolScaffold

/-- A tool as it is stored. -/
structure ToolRecord where
  name : String
  description : Option String
  inputSchema : Option Json
  outputSchema : Option String
  handlerType : String
  handlerCode : Option String

/-- A project as it is stored. -/
structure ProjectRecord where
  name : String
  tools : List ToolRecord

inductive SchemaWarning where
  | notJson (tool : String) (error : Json.ReadError)
  | notAnObject (tool : String) (found : Json)

def SchemaWarning.message : SchemaWarning → String
  | notJson tool error =>
    "Tool '" ++ tool ++ "': input schema is not valid JSON (" ++ error.message ++
      "); using an empty schema"
  | notAnObject tool found =>
    "Tool '" ++ tool ++ "': input schema must be an object, got " ++ found.compact ++
      "; using an empty schema"

/-- The input schema that a document stands for. -/
def InputSchema.ofValue (tool : String) : Json → InputSchema × Option SchemaWarning
  | .obj document => (.ofDocument document, none)
  | v => (.empty, some (.notAnObject tool v))

/-- The input schema that a stored value stands for: a text is read as a document first, and nothing,
null and blank text stand for the empty schema. -/
def InputSchema.ofStored (tool : String) : Option Json → InputSchema × Option SchemaWarning
  | none => (.empty, none)
  | some .null => (.empty, none)
  | some (.str text) =>
    if Text.isBlank text then (.empty, none)
    else
      match Json.read text with
      | .ok v => ofValue tool v
      | .error e => (.empty, some (.notJson tool e))
  | some v => ofValue tool v

namespace ToolRecord

/-- The tool that a record stands for, and what was set aside in it. -/
def toTool (r : ToolRecord) : Except UnsupportedHandler (Tool × Option SchemaWarning) := do
  let handler ← Handler.parse r.name r.handlerType
  let (inputSchema, warning) := InputSchema.ofStored r.name r.inputSchema
  return ({
    name := r.name
    description := r.description
    inputSchema
    outputSchema := r.outputSchema
    handler
    handlerCode := r.handlerCode }, warning)

def toJson (r : ToolRecord) : Json :=
  .obj [("name", .str r.name),
    ("description", .textOrNull r.description),
    ("input_schema", r.inputSchema.getD .null),
    ("output_schema", .textOrNull r.outputSchema),
    ("handler_type", .str r.handlerType),
    ("handler_code", .textOrNull r.handlerCode)]

/-- The stored input schema among the fields of a record. -/
def inputSchemaOf (fields : Json.Fields) : Option Json :=
  match Entries.get? fields "input_schema" with
  | some .null => none
  | v => v

def ofFields? (fields : Json.Fields) : Except Json.Cause ToolRecord := do
  return {
    name := ← Json.Fields.text? fields "name"
    description := ← Json.Fields.optionalText? fields "description"
    inputSchema := inputSchemaOf fields
    outputSchema := ← Json.Fields.optionalText? fields "output_schema"
    handlerType := ← Json.Fields.text? fields "handler_type"
    handlerCode := ← Json.Fields.optionalText? fields "handler_code" }

def ofJson? : Json → Except Json.Cause ToolRecord
  | .obj fields => ofFields? fields
  | v => .error (.wrongType v "struct ToolRecord")

open Json.Reader in
def form : Form where
  title := "struct ToolRecord"
  fields := [
    ⟨"name", true, text⟩,
    ⟨"description", false, optional text⟩,
    ⟨"input_schema", false, optional value⟩,
    ⟨"output_schema", false, optional text⟩,
    ⟨"handler_type", true, text⟩,
    ⟨"handler_code", false, optional text⟩]
  check fields := do let _ ← ofFields? fields

def read (text : String) : Except Json.ReadError ToolRecord :=
  Json.readAs form.read ofJson? text

end ToolRecord

/-- The tools that records stand for, up to the first that has none, with all warnings on the way. -/
def ToolRecord.toTools :
    List ToolRecord → Except UnsupportedHandler (List Tool) × List SchemaWarning
  | [] => (.ok [], [])
  | r :: rest =>
    match r.toTool with
    | .error e => (.error e, [])
    | .ok (tool, warning) =>
      let (tools, warnings) := toTools rest
      (tools.map (tool :: ·), warning.toList ++ warnings)

namespace ProjectRecord

/-- The project that a record stands for, with all warnings. -/
def toProject (r : ProjectRecord) : Except UnsupportedHandler Project × List SchemaWarning :=
  let (tools, warnings) := ToolRecord.toTools r.tools
  (tools.map fun tools => ⟨r.name, tools⟩, warnings)

def toJson (r : ProjectRecord) : Json :=
  .obj [("name", .str r.name), ("tools", .arr (r.tools.map ToolRecord.toJson))]

def ofFields? (fields : Json.Fields) : Except Json.Cause ProjectRecord := do
  return {
    name := ← Json.Fields.text? fields "name"
    tools := ← Json.Fields.items? fields "tools" ToolRecord.ofJson? }

def ofJson? : Json → Except Json.Cause ProjectRecord
  | .obj fields => ofFields? fields
  | v => .error (.wrongType v "struct ProjectRecord")

end ProjectRecord

end ToolScaffold
