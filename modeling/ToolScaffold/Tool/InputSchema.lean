import ToolScaffold.Tool.Property

/-!
# Input schemas

The parameters of a tool: named properties, and the names that must be given. They are read out of a
document, which is kept as it is and is what gets written. An entry that cannot be used is passed
over and leaves the others as they are.
-/

namespace ToolScaffold

/-- The parameters of a tool. -/
structure InputSchema where
  properties : Entries Property
  required : List String
  /-- The document that the schema was read from. -/
  document : Json.Fields
  /-- Each property stands once. -/
  distinct : properties.Distinct

namespace InputSchema

def empty : InputSchema := ⟨[], [], [], List.nodup_nil⟩

instance : Inhabited InputSchema := ⟨empty⟩

/-- The entries of an object, read as properties. -/
def readProperties (entries : Json.Fields) : Entries Property :=
  (Entries.firsts entries).map fun entry => (entry.1, Property.ofJson entry.2)

def propertiesOf (document : Json.Fields) : Entries Property :=
  match Entries.get? document "properties" with
  | some (.obj entries) => readProperties entries
  | _ => []

def requiredOf (document : Json.Fields) : List String :=
  match Entries.get? document "required" with
  | some (.arr names) => names.filterMap Json.text?
  | _ => []

theorem distinct_propertiesOf (document : Json.Fields) : (propertiesOf document).Distinct := by
  unfold propertiesOf
  split
  · next entries _ =>
    rw [Entries.Distinct, Entries.keys, readProperties, List.map_map]
    exact Entries.distinct_firsts entries
  · exact List.nodup_nil

def ofDocument (document : Json.Fields) : InputSchema :=
  ⟨propertiesOf document, requiredOf document, document, distinct_propertiesOf document⟩

@[simp] theorem properties_ofDocument (document : Json.Fields) :
    (ofDocument document).properties = propertiesOf document := rfl

@[simp] theorem required_ofDocument (document : Json.Fields) :
    (ofDocument document).required = requiredOf document := rfl

def toJson (s : InputSchema) : Json := .obj s.document

def names (s : InputSchema) : List String := Entries.keys s.properties

def isRequired (s : InputSchema) (name : String) : Bool := s.required.contains name

/-- The required names that no property declares. -/
def danglingRequired (s : InputSchema) : List String :=
  s.required.filter fun name => !s.names.contains name

/-- The document with a property declared, if its properties are an object or absent. -/
def declareIn (document : Json.Fields) (name : String) (p : Property) : Json.Fields :=
  match (Entries.get? document "properties").getD (.obj []) with
  | .obj entries =>
    Entries.insert "properties" (.obj (Entries.insert name p.toJson entries)) document
  | _ => document

/-- The document with a name required, if its required names are a list or absent. -/
def requireIn (document : Json.Fields) (name : String) : Json.Fields :=
  match (Entries.get? document "required").getD (.arr []) with
  | .arr names => Entries.insert "required" (.arr (names ++ [.str name])) document
  | _ => document

/-- Declares a property, and requires it if asked to. The document follows where it can. -/
def withProperty (s : InputSchema) (name : String) (p : Property) (required : Bool) :
    InputSchema :=
  let document := declareIn s.document name p
  let properties := Entries.insert name p s.properties
  if required && !s.isRequired name then
    ⟨properties, s.required ++ [name], requireIn document name, s.distinct.insert⟩
  else ⟨properties, s.required, document, s.distinct.insert⟩

end InputSchema

end ToolScaffold
