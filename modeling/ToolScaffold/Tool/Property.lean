import ToolScaffold.Json.Basic

/-!
# Properties of an input schema

A property is read leniently: a type or a description that is no text is kept aside with the keys
that have no meaning here, and a property that is no object has nothing at all. Written out, the
type comes first, then the description, then the rest in order.
-/

namespace ToolScaffold

/-- The type of a property. A type with no meaning here is kept as it is spelt. -/
inductive TypeTag where
  | string
  | number
  | integer
  | boolean
  | array
  | object
  | other (name : String)
  deriving DecidableEq, Repr

namespace TypeTag

def known : List TypeTag := [string, number, integer, boolean, array, object]

def name : TypeTag → String
  | string => "string"
  | number => "number"
  | integer => "integer"
  | boolean => "boolean"
  | array => "array"
  | object => "object"
  | other name => name

def ofName (s : String) : TypeTag := (known.find? fun tag => tag.name = s).getD (other s)

end TypeTag

structure Property where
  type : Option TypeTag
  description : Option String
  /-- The keys that have no meaning here. -/
  extra : Json.Fields

namespace Property

/-- The property about which nothing is known. -/
def empty : Property := ⟨none, none, []⟩

instance : Inhabited Property := ⟨empty⟩

/-- The property of which only the type is known. -/
def ofType (tag : TypeTag) : Property := { empty with type := some tag }

def withDescription (p : Property) (text : String) : Property := { p with description := some text }

/-- Sets a text aside from the other fields. -/
def splitText (fields : Json.Fields) (key : String) : Option String × Json.Fields :=
  match Entries.get? fields key with
  | some (.str s) => (some s, Entries.erase fields key)
  | _ => (none, fields)

def ofFields (fields : Json.Fields) : Property :=
  let (type, rest) := splitText fields "type"
  let (description, rest) := splitText rest "description"
  ⟨type.map TypeTag.ofName, description, rest⟩

def ofJson : Json → Property
  | .obj fields => ofFields fields
  | _ => empty

/-- The fields in the order in which they are written. -/
def members (p : Property) : List (String × Json) :=
  (p.type.map fun tag => ("type", Json.str tag.name)).toList ++
    (p.description.map fun text => ("description", Json.str text)).toList ++ p.extra

/-- The property as it is written, field by field. -/
def written (p : Property) : Json := .obj p.members

/-- The property as a value, in which a key stands once. -/
def toJson (p : Property) : Json := .obj (Entries.ofList p.members)

end Property

end ToolScaffold
