import ToolScaffold.Identifier
import ToolScaffold.Json.Reader.Record
import ToolScaffold.Tool.Handler
import ToolScaffold.Tool.InputSchema

/-!
# Tools and projects

A tool is a named function of the generated server; a project is a named list of tools. Both are
written as JSON objects, and read back from fields (`ofFields?`) or from text (`read`).
-/

namespace ToolScaffold

namespace Json.Fields

/-- The text under a key that must be there. -/
def text? (fields : Fields) (name : String) : Except Cause String :=
  match Entries.get? fields name with
  | some (.str s) => .ok s
  | some v => .error (.wrongType v "a string")
  | none => .error (.missingField name)

/-- The text under a key that may be absent or null. -/
def optionalText? (fields : Fields) (name : String) : Except Cause (Option String) :=
  match Entries.get? fields name with
  | some (.str s) => .ok (some s)
  | some .null => .ok none
  | some v => .error (.wrongType v "a string")
  | none => .ok none

/-- The items of the list under a key that may be absent. -/
def items? {α : Type} (fields : Fields) (name : String) (item : Json → Except Cause α) :
    Except Cause (List α) :=
  match Entries.get? fields name with
  | some (.arr items) => items.mapM item
  | some v => .error (.wrongType v "a sequence")
  | none => .ok []

end Json.Fields

namespace Json

def textOrNull : Option String → Json
  | some s => .str s
  | none => .null

end Json

structure Tool where
  name : String
  description : Option String
  inputSchema : InputSchema
  outputSchema : Option String
  handler : Handler
  handlerCode : Option String

namespace Tool

/-- A tool with a name and a handler and nothing else. -/
def ofName (name : String) (handler : Handler) : Tool := ⟨name, none, .empty, none, handler, none⟩

def identifier (t : Tool) : String := Identifier.derive t.name

/-- The handler's code, unless it is empty. -/
def endpoint? (t : Tool) : Option String := t.handlerCode.filter (· ≠ "")

def toJson (t : Tool) : Json :=
  .obj [("name", .str t.name),
    ("description", .textOrNull t.description),
    ("input_schema", t.inputSchema.toJson),
    ("output_schema", .textOrNull t.outputSchema),
    ("handler_type", .str t.handler.name),
    ("handler_code", .textOrNull t.handlerCode)]

def inputSchemaOf? (fields : Json.Fields) : Except Json.Cause InputSchema :=
  match Entries.get? fields "input_schema" with
  | some (.obj document) => .ok (.ofDocument document)
  | some v => .error (.wrongType v "a map")
  | none => .ok .empty

def handlerOf? (fields : Json.Fields) : Except Json.Cause Handler := do
  let name ← Json.Fields.text? fields "handler_type"
  match Handler.ofName? name with
  | some handler => return handler
  | none => throw (.unknownVariant name (Handler.all.map Handler.name))

def ofFields? (fields : Json.Fields) : Except Json.Cause Tool := do
  return {
    name := ← Json.Fields.text? fields "name"
    description := ← Json.Fields.optionalText? fields "description"
    inputSchema := ← inputSchemaOf? fields
    outputSchema := ← Json.Fields.optionalText? fields "output_schema"
    handler := ← handlerOf? fields
    handlerCode := ← Json.Fields.optionalText? fields "handler_code" }

def ofJson? : Json → Except Json.Cause Tool
  | .obj fields => ofFields? fields
  | v => .error (.wrongType v "struct ToolSpec")

open Json.Reader in
def form : Form where
  title := "struct ToolSpec"
  fields := [
    ⟨"name", true, text⟩,
    ⟨"description", false, optional text⟩,
    ⟨"input_schema", false, mapping⟩,
    ⟨"output_schema", false, optional text⟩,
    ⟨"handler_type", true, tag (Handler.all.map Handler.name)⟩,
    ⟨"handler_code", false, optional text⟩]
  check fields := do let _ ← ofFields? fields

end Tool

structure Project where
  name : String
  tools : List Tool

namespace Project

def toJson (p : Project) : Json :=
  .obj [("name", .str p.name), ("tools", .arr (p.tools.map Tool.toJson))]

def ofFields? (fields : Json.Fields) : Except Json.Cause Project := do
  return {
    name := ← Json.Fields.text? fields "name"
    tools := ← Json.Fields.items? fields "tools" Tool.ofJson? }

def ofJson? : Json → Except Json.Cause Project
  | .obj fields => ofFields? fields
  | v => .error (.wrongType v "struct ProjectSpec")

open Json.Reader in
def form : Form where
  title := "struct ProjectSpec"
  fields := [⟨"name", true, text⟩, ⟨"tools", false, sequence Tool.form.read⟩]
  check fields := do let _ ← ofFields? fields

end Project

/-! ## Reading from text -/

namespace Json

/-- Reads a whole text by a reader of documents of one form, and makes a value of the document. -/
def readAs {α : Type} (document : Nat → Reader Json) (make : Json → Except Cause α)
    (text : String) : Except ReadError α :=
  (do Reader.ofExcept (make (← document maxDepth)) : Reader α).runWhole text

end Json

def Tool.read (text : String) : Except Json.ReadError Tool :=
  Json.readAs Tool.form.read Tool.ofJson? text

def Project.read (text : String) : Except Json.ReadError Project :=
  Json.readAs Project.form.read Project.ofJson? text

def InputSchema.read (text : String) : Except Json.ReadError InputSchema :=
  Json.readAs Json.Reader.mapping
    (fun v => match v with
      | .obj document => .ok (.ofDocument document)
      | v => .error (.wrongType v "a map")) text

def Property.read (text : String) : Except Json.ReadError Property :=
  return Property.ofJson (← Json.read text)

end ToolScaffold
