import ToolScaffold.Json.Schema
import ToolScaffold.Record
import ToolScaffold.Yaml

/-!
# Project documents

A project is stored as a JSON or a YAML text. The document is checked as a whole before anything is
taken out of it, so that a message names everything that is wrong with its shape.
-/

namespace ToolScaffold

inductive Format where
  | json
  | yaml
  deriving DecidableEq, Repr

inductive DocumentError where
  | json (error : Json.ReadError)
  | yaml
  | shape (violations : List Json.Violation)
  | record (cause : Json.Cause)

namespace Json

/-- The message about everything that is wrong with the shape of a value. -/
def Violation.report (violations : List Violation) : String :=
  "\n".intercalate (violations.map fun v => "Error: " ++ v.message)

def Schema.check (schema : Schema) (v : Json) : Except (List Violation) Unit :=
  match schema.violations v with
  | [] => .ok ()
  | violations => .error violations

end Json

namespace ProjectRecord

/-- What the document of a tool must be like. -/
def toolShape : Json.Schema :=
  let text : Json.Schema := .oneOf [.string]
  let optionalText : Json.Schema := .oneOf [.string, .null]
  .rules [.object] ["name", "handler_type"]
    [("name", text),
      ("description", optionalText),
      ("input_schema", .oneOf [.object, .string, .null]),
      ("output_schema", optionalText),
      ("handler_type", text),
      ("handler_code", optionalText)]
    none

/-- What the document of a project must be like. -/
def shape : Json.Schema :=
  .rules [.object] ["name"]
    [("name", .oneOf [.string]), ("tools", .rules [.array] [] [] (some toolShape))]
    none

/-- The project that a document stands for. -/
def ofDocument (document : Json) : Except DocumentError ProjectRecord := do
  (shape.check document).mapError .shape
  (ofJson? document).mapError .record

def parse (format : Format) (text : String) : Except DocumentError ProjectRecord :=
  match format with
  | .json =>
    match Json.read text with
    | .ok document => ofDocument document
    | .error error => .error (.json error)
  | .yaml =>
    match Yaml.read? text with
    | some document => ofDocument document
    | none => .error .yaml

end ProjectRecord

end ToolScaffold
