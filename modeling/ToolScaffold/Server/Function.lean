import ToolScaffold.Server.Literal
import ToolScaffold.Tool.Basic
import ToolScaffold.UrlTemplate

/-!
# Functions of the generated server

What a tool becomes: typed parameters, a documentation text, and the statements of a body. The
parameters follow the properties of the input schema. An `api` tool with an endpoint asks its web
address, with the placeholders that name parameters filled in; every other tool answers with a fixed
text.
-/

namespace ToolScaffold

inductive ParamType where
  | text
  | float
  | int
  | bool
  | list
  | map
  deriving DecidableEq, Repr

namespace ParamType

/-- The type for a property's type; a property without one, or with an unknown one, is a text. -/
def ofTag? : Option TypeTag → ParamType
  | some .string => text
  | some .number => float
  | some .integer => int
  | some .boolean => bool
  | some .array => list
  | some .object => map
  | some (.other _) => text
  | none => text

def annotation : ParamType → String
  | text => "str"
  | float => "float"
  | int => "int"
  | bool => "bool"
  | list => "list"
  | map => "dict"

/-- The default value of a parameter that may be left out. -/
def defaultLiteral : ParamType → String
  | text => "\"\""
  | float => "0.0"
  | int => "0"
  | bool => "False"
  | list => "[]"
  | map => "\x7b\x7d"

end ParamType

structure Parameter where
  name : String
  type : ParamType
  required : Bool
  description : Option String
  deriving DecidableEq, Repr

namespace Parameter

/-- The parameter as it is declared; one that is not required has a default. -/
def declaration (p : Parameter) : String :=
  p.name ++ ": " ++ p.type.annotation ++
    if p.required then "" else " = " ++ p.type.defaultLiteral

/-- The line of the documentation text about the parameter, if there is something to say. -/
def docLine? (p : Parameter) : Option String :=
  (p.description.filter (· ≠ "")).map fun text =>
    "        " ++ p.name ++ ": " ++ Server.docText text

end Parameter

def InputSchema.parameters (s : InputSchema) : List Parameter :=
  s.properties.map fun (name, p) =>
    ⟨name, .ofTag? p.type, s.isRequired name, p.description⟩

namespace Tool

/-- Whether the function asks a web address. -/
def isApiCall (t : Tool) : Bool := t.handler = .api && t.endpoint?.isSome

end Tool

namespace Server

/-! ## Names of the generated server -/

/-- The object that the functions are registered with. -/
def instanceName : String := "mcp"

/-- The module that asks web addresses. -/
def requestsName : String := "_requests"

/-- The function that fills in placeholders. -/
def fillName : String := "_fill_placeholders"

/-- The names that neither a function nor a parameter may take. -/
def reservedNames : List String := [instanceName, requestsName, fillName]

/-! ## Functions -/

structure Function where
  /-- The name of the tool; the function's name is derived from it. -/
  name : String
  params : String
  /-- The documentation text with its quotes. -/
  docstring : String
  body : List String
  deriving DecidableEq, Repr

/-- What stands for a description that is missing. -/
def noDescription : String := "No description"

def docQuote : String := "\"\"\""

/-- The documentation text of a function: the description, then a line for each parameter that has
one. -/
def docstringOf (description : Option String) (parameters : List Parameter) : String :=
  let lines := parameters.filterMap Parameter.docLine?
  docQuote ++ docText ((description.filter (· ≠ "")).getD noDescription) ++
    (if lines.isEmpty then "" else "\n\n    Args:\n" ++ "\n".intercalate lines) ++ docQuote

/-- The statement that answers with a fixed text. -/
def staticBody (name : String) : List String := ["return " ++ literal ("Executed " ++ name)]

/-- One entry of the values that placeholders are filled from. -/
def valueEntry (name : String) : String := literal name ++ ": " ++ name

/-- The statements that ask a web address. -/
def apiBody (endpoint : String) (schema : InputSchema) : List String :=
  let template := UrlTemplate.parse endpoint
  let values := ", ".intercalate ((template.bound schema.names).map valueEntry)
  ["url = " ++ fillName ++ "(" ++ literal template.text ++ ", \x7b" ++ values ++ "\x7d)",
    "response = " ++ requestsName ++ ".get(url)",
    "return response.text"]

def bodyOf (t : Tool) : List String :=
  match t.handler, t.endpoint? with
  | .api, some endpoint => apiBody endpoint t.inputSchema
  | _, _ => staticBody t.name

def Function.ofTool (t : Tool) : Function :=
  let parameters := t.inputSchema.parameters
  { name := t.name
    params := ", ".intercalate (parameters.map Parameter.declaration)
    docstring := docstringOf t.description parameters
    body := bodyOf t }

def Function.toJson (f : Function) : Json :=
  .obj [("name", .str f.name), ("params", .str f.params), ("docstring", .str f.docstring),
    ("body", .arr (f.body.map .str))]

end Server

end ToolScaffold
