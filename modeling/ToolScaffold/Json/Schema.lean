import ToolScaffold.Json.Printer

/-!
# Structural checks

A schema says which types a value may have, which keys an object must have, and what the values
under some keys and the items of a list must be like. `violations` lists everything that is wrong
with a value, from the outside in: its type, then missing keys, then the values under the keys in
the schema's order, then the items.
-/

namespace ToolScaffold.Json

/-- The types of values, in the order in which messages list them. -/
inductive TypeName where
  | array
  | boolean
  | integer
  | null
  | number
  | object
  | string
  deriving DecidableEq, Repr

namespace TypeName

def all : List TypeName := [array, boolean, integer, null, number, object, string]

def name : TypeName → String
  | array => "array"
  | boolean => "boolean"
  | integer => "integer"
  | null => "null"
  | number => "number"
  | object => "object"
  | string => "string"

def ofName? (s : String) : Option TypeName := all.find? fun t => t.name = s

/-- Whether a value has the type. A double without a fraction is an integer too. -/
def admits : TypeName → Json → Bool
  | array, .arr _ => true
  | boolean, .bool _ => true
  | integer, .num (.int _) => true
  | integer, .num (.float x) => x.floor == x
  | null, .null => true
  | number, .num _ => true
  | object, .obj _ => true
  | string, .str _ => true
  | _, _ => false

end TypeName

inductive Schema where
  /-- No value passes. -/
  | never
  /-- A value has one of the types, if any are named; an object has the required keys and, under
  the listed keys, values that pass; the items of a list pass. -/
  | rules (types : List TypeName) (required : List String)
      (properties : List (String × Schema)) (items : Option Schema)

inductive Violation where
  | wrongType (value : Json) (types : List TypeName)
  | missingKey (key : String)
  | notAllowed (value : Json)

namespace Violation

def message : Violation → String
  | wrongType value types =>
    let names := (TypeName.all.filter types.contains).map fun t => quote t.name
    value.compact ++ (if names.length = 1 then " is not of type " else " is not of types ") ++
      ", ".intercalate names
  | missingKey key => quote key ++ " is a required property"
  | notAllowed value => "False schema does not allow " ++ value.compact

end Violation

namespace Schema

/-- A value of one of the types. -/
def oneOf (types : List TypeName) : Schema := .rules types [] [] none

mutual

def violations : Schema → Json → List Violation
  | .never, v => [.notAllowed v]
  | .rules types required properties items, v =>
    (if types.isEmpty || types.any (·.admits v) then [] else [.wrongType v types]) ++
    (match v with
      | .obj fields =>
        (required.filter fun key => (Entries.get? fields key).isNone).map .missingKey ++
          propertyViolations properties fields
      | .arr elements => itemViolations items elements
      | _ => [])

/-- All that is wrong with the values under the listed keys. -/
def propertyViolations : List (String × Schema) → Fields → List Violation
  | [], _ => []
  | (key, schema) :: rest, fields =>
    (match Entries.get? fields key with
      | some v => violations schema v
      | none => []) ++ propertyViolations rest fields

def itemViolations : Option Schema → List Json → List Violation
  | none, _ => []
  | some schema, elements => elements.flatMap fun v => violations schema v

end

/-! ## Schemas as documents -/

/-- Why a document is no schema. -/
inductive Fault where
  | badType (found : Json)
  | wrongType (found : Json) (types : List TypeName)
  | repeated (found : Json)

def Fault.message : Fault → String
  | badType found =>
    found.compact ++ " is not valid under any of the schemas listed in the 'anyOf' keyword"
  | wrongType found types => (Violation.wrongType found types).message
  | repeated found => found.compact ++ " has non-unique elements"

/-- The types that a `type` keyword names. -/
def typesOfJson? (v : Json) : Except Fault (List TypeName) :=
  let named : Option (List TypeName) :=
    match v with
    | .str s => (TypeName.ofName? s).map fun t => [t]
    | .arr items => items.mapM fun item => item.text?.bind TypeName.ofName?
    | _ => none
  match named with
  | some types => if types ≠ [] ∧ types.Nodup then .ok types else .error (.badType v)
  | none => .error (.badType v)

/-- The keys that a `required` keyword names. -/
def requiredOfJson? (v : Json) : Except Fault (List String) :=
  match v with
  | .arr items => do
    let keys ← items.mapM fun item =>
      match item with
      | .str s => .ok s
      | _ => .error (.wrongType item [.string])
    if keys.Nodup then return keys else .error (.repeated v)
  | _ => .error (.wrongType v [.array])

mutual

/-- Reads a schema: a boolean, or an object whose known keywords are `type`, `required`,
`properties` and `items`. -/
def ofJson? : Json → Except Fault Schema
  | .bool true => .ok (oneOf [])
  | .bool false => .ok .never
  | .obj fields => ofKeywords? [] [] [] none fields
  | v => .error (.wrongType v [.boolean, .object])

/-- Adds the keywords to the rules collected so far. -/
def ofKeywords? (types : List TypeName) (required : List String)
    (properties : List (String × Schema)) (items : Option Schema) :
    List (String × Json) → Except Fault Schema
  | [] => .ok (.rules types required properties items)
  | (keyword, v) :: rest => do
    if keyword = "type" then ofKeywords? (← typesOfJson? v) required properties items rest
    else if keyword = "required" then
      ofKeywords? types (← requiredOfJson? v) properties items rest
    else if keyword = "properties" then
      match v with
      | .obj entries => ofKeywords? types required (← ofProperties? entries) items rest
      | v => .error (.wrongType v [.object])
    else if keyword = "items" then ofKeywords? types required properties (← ofJson? v) rest
    else ofKeywords? types required properties items rest

/-- The schemas under the keys of a `properties` keyword. -/
def ofProperties? : List (String × Json) → Except Fault (List (String × Schema))
  | [] => .ok []
  | (key, v) :: rest => do
    let schema ← ofJson? v
    return (key, schema) :: (← ofProperties? rest)

end

end Schema

end ToolScaffold.Json
