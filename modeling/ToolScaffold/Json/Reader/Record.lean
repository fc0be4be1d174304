import ToolScaffold.Json.Reader

/-!
# Reading documents of a known form

Readers for documents whose form is fixed: texts, maps, sequences, tags, and records with named
fields. They stop at the first character that departs from the form. What they return is the
document reduced to its form: unknown fields are dropped, and a record that is given as a list gets
its field names.
-/

namespace ToolScaffold.Json.Reader

/-- The value found is of another type than expected; a list or an object is not read any further. -/
def wrongType {α : Type} (expected : String) (first : Char) : Reader α := do
  if first = '[' then fail (.wrongType (.arr []) expected)
  else if first = '\x7b' then fail (.wrongType (.obj []) expected)
  else fail (.wrongType (← scalar first) expected)

def start : Reader Char := do
  match ← next with
  | none => failAtNext .endInValue
  | some c => return c

/-- Goes one nesting level down. -/
def nested {α : Type} (levels : Nat) (inner : Nat → Reader α) : Reader α :=
  match levels with
  | 0 => failAtNext .tooDeep
  | levels + 1 => inner levels

def text (_levels : Nat) : Reader Json := do
  let c ← start
  if c = '"' then
    advance
    return .str (← string)
  else wrongType "a string" c

def null (expected : String) : Reader Json := do
  let c ← start
  if c = 'n' then
    advance
    word ['u', 'l', 'l']
    return .null
  else wrongType expected c

def optional (inner : Nat → Reader Json) (levels : Nat) : Reader Json := do
  match ← next with
  | some 'n' => null ""
  | _ => inner levels

/-- An object of any fields. -/
def mapping (levels : Nat) : Reader Json := do
  let c ← start
  if c = '\x7b' then nested levels fun levels => object (value levels) else wrongType "a map" c

/-- A list of values of one form. -/
def sequence (item : Nat → Reader Json) (levels : Nat) : Reader Json := do
  let c ← start
  if c = '[' then nested levels fun levels => list (item levels) else wrongType "a sequence" c

/-- The name of a tag, one of the known ones. -/
def tagName (known : List String) : Reader Json := do
  let c ← start
  if c = '"' then
    advance
    let name ← string
    if known.contains name then return .str name else fail (.unknownVariant name known)
  else wrongType "variant identifier" c

/-- A tag: its name, or an object with the name as the only key and null as its value. -/
def tag (known : List String) (levels : Nat) : Reader Json := do
  let c ← start
  if c = '"' then tagName known
  else if c = '\x7b' then nested levels fun _ => do
    advance
    let name ← tagName known
    colon
    let _ ← null "unit"
    match ← next with
    | none => fail .endInObject
    | some c =>
      if c = '\x7d' then
        advance
        return name
      else fail .notAValue
  else failAtNext .notAValue

/-! ## Records -/

/-- A field of a record and the form of its value. -/
structure Field where
  name : String
  required : Bool
  value : Nat → Reader Json

/-- A record: what messages call it, its fields in order, and a last check of the fields read. -/
structure Form where
  title : String
  fields : List Field
  check : Fields → Except Cause Unit

namespace Form

/-- Takes the closing bracket if it comes next. -/
def closeIf (close : Char) : Reader Unit := do
  if (← next) = some close then advance

/-- One field of a record in object notation, from its quotation mark. -/
def namedField (form : Form) (levels : Nat) (read : Fields) : Reader Fields := do
  advance
  let name ← string
  match form.fields.find? fun field => field.name = name with
  | some field =>
    if (Entries.get? read name).isSome then
      closeIf '\x7d'
      fail (.duplicateField name)
    else
      colon
      return Entries.insert name (← field.value levels) read
  | none =>
    colon
    skip
    return read

/-- What messages call the record when its length is wrong. -/
def sizedTitle (form : Form) : String :=
  let count := form.fields.length
  form.title ++ " with " ++ String.ofList (natChars count) ++
    (if count = 1 then " element" else " elements")

/-- Whether an item of a list follows; the comma before it is read. -/
def hasItem (isFirst : Bool) : Reader Bool := do
  match ← next with
  | none => failAtNext .endInList
  | some c =>
    if c = ']' then return false
    else if isFirst then return true
    else if c = ',' then
      advance
      let _ ← next
      listBrackets.afterComma
      return true
    else failAtNext .missingListComma

/-- The fields of a record in list notation, by position. -/
def positionalFields (form : Form) (levels : Nat) (read : Fields) (position : Nat) :
    List Field → Reader Fields
  | [] => return read
  | field :: rest => do
    if ← hasItem (position = 0) then
      let v ← field.value levels
      positionalFields form levels (Entries.insert field.name v read) (position + 1) rest
    else if field.required then
      closeIf ']'
      fail (.wrongLength position form.sizedTitle)
    else positionalFields form levels read (position + 1) rest

/-- The end of a list that has all its items. -/
def endOfList : Reader Unit := do
  match ← next with
  | none => failAtNext .endInList
  | some c =>
    if c = ']' then advance
    else if c = ',' then
      advance
      if (← next) = some ']' then failAtNext .trailingComma else failAtNext .trailingCharacters
    else failAtNext .trailingCharacters

def read (form : Form) (levels : Nat) : Reader Json := do
  let c ← start
  if c = '\x7b' then nested levels fun levels => do
    advance
    let fields ← objectBrackets.items (form.namedField levels) []
    ofExcept (form.check fields)
    return .obj fields
  else if c = '[' then nested levels fun levels => do
    advance
    let fields ← form.positionalFields levels [] 0 form.fields
    endOfList
    ofExcept (form.check fields)
    return .obj fields
  else wrongType form.title c

end Form

end ToolScaffold.Json.Reader
