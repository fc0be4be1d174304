import Mathlib.Data.List.Forall2
import ToolScaffold.Proofs.Record.Loaded
import ToolScaffold.Proofs.Server.Literal
import ToolScaffold.Proofs.Server.Signature

/-!
# A source and its manifest

The source of a server is made of the tools' schemas, and its manifest of the documents that these
schemas were read from. `agrees_of_toProject`: for a project that a record stands for, both are
about the same tools. Each tool of the manifest `Describes` the function that stands in the source
at its place: what the function is called, what it takes and which web address it asks can be read
off the tool's entry in the manifest alone, whatever is missing or malformed in its schema.
-/

namespace ToolScaffold

/-- The value under a key of an object. -/
def Json.field? (v : Json) (key : String) : Option Json :=
  v.fields?.bind fun fields => Entries.get? fields key

namespace Server

/-! ## What a manifest says about a tool -/

section Manifest

variable (tool : Json)

/-- The value under a key of the tool's input schema. -/
def schemaField? (key : String) : Option Json :=
  (tool.field? "input_schema").bind fun schema => schema.field? key

/-- The declared properties, each where it stands first. There are none unless they are an
object. -/
def propertiesIn : Json.Fields :=
  match schemaField? tool "properties" with
  | some (.obj entries) => Entries.firsts entries
  | _ => []

/-- The required names, among them what is no name; there are none unless they are a list. -/
def requiredIn : List Json :=
  match schemaField? tool "required" with
  | some (.arr items) => items
  | _ => []

/-- The tool asks this web address. -/
structure Asks (url : String) : Prop where
  handler_type : tool.field? "handler_type" = some (.str "api")
  handler_code : tool.field? "handler_code" = some (.str url)
  nonempty : url ≠ ""

end Manifest

/-- The annotations for the types of properties. -/
def annotations : Entries String :=
  [("string", "str"), ("number", "float"), ("integer", "int"), ("boolean", "bool"),
    ("array", "list"), ("object", "dict")]

/-- The annotation for an entry of the properties: that of a text, unless the entry has a type. -/
def annotationIn (entry : Json) : String :=
  (((entry.field? "type").bind Json.text?).bind (Entries.get? annotations)).getD "str"

/-! ## Functions in the source -/

/-- A parameter as it stands in a source. -/
def Declared.text (d : Declared) : String :=
  d.name ++ ": " ++ d.annotation ++
    match d.default? with
    | none => ""
    | some value => " = " ++ value

/-- A function, part by part. -/
structure Emitted where
  identifier : String
  parameters : List Declared
  /-- The documentation text with its quotes. -/
  docstring : String
  body : List String

namespace Emitted

/-- The function as it stands in a source. -/
def text (f : Emitted) : String :=
  "\n@" ++ instanceName ++ ".tool()\n" ++ ("def " ++ f.identifier ++ "(" ++
    ", ".intercalate (f.parameters.map Declared.text) ++ ") -> str:") ++ "\n" ++
    statementLine f.docstring ++ bodyText f.body

/-- The function of a tool. -/
def ofTool (t : Tool) : Emitted where
  identifier := t.identifier
  parameters := (signatureOf t).parameters
  docstring := (Function.ofTool t).docstring
  body := bodyOf t

end Emitted

/-- The statement that makes the call. -/
def callLine : String := "response = " ++ requestsName ++ ".get(url)"

/-- The statements that make the call, for a literal of the web address and the values that its
placeholders are filled from. -/
def callBody (lit values : String) : List String :=
  ["url = " ++ fillName ++ "(" ++ lit ++ ", \x7b" ++ values ++ "\x7d)", callLine,
    "return response.text"]

/-! ## Agreement -/

/-- A parameter is what an entry of the properties declares, next to these required names. -/
structure Declares (required : List Json) (entry : String × Json) (d : Declared) : Prop where
  name_eq : d.name = entry.1
  annotation_eq : d.annotation = annotationIn entry.2
  default_eq_none_iff : d.default? = none ↔ .str entry.1 ∈ required

/-- A function is what a tool of a manifest describes. -/
structure Describes (tool : Json) (f : Emitted) : Prop where
  identifier_eq : ∃ name, tool.field? "name" = some (.str name) ∧
    f.identifier = Identifier.derive name
  parameters_eq : List.Forall₂ (Declares (requiredIn tool)) (propertiesIn tool) f.parameters
  calls_iff : callLine ∈ f.body ↔ ∃ url, Asks tool url
  body_eq : ∀ url, Asks tool url →
    ∃ lit values, f.body = callBody lit values ∧ decode? lit = some url

/-- A source with this literal for the name of the server. -/
def sourceOf (p : Project) (lit : String) (functions : List Emitted) : String :=
  "from mcp.server.fastmcp import FastMCP\n" ++ importLine p ++ "\n" ++ instanceName ++
    " = FastMCP(" ++ lit ++ ")\n" ++ helper p ++ String.join (functions.map Emitted.text) ++ footer

/-- The source of a project and its manifest are about the same server and the same tools. -/
structure Agrees (p : Project) : Prop where
  manifest_eq : manifest p = (manifestJson p).indented
  name_eq : ∃ lit name, source p = .ok (sourceOf p lit (p.tools.map .ofTool)) ∧
    decode? lit = some name ∧ (manifestJson p).field? "name" = some (.str name)
  tools_eq : ∃ tools, (manifestJson p).field? "tools" = some (.arr tools) ∧
    List.Forall₂ Describes tools (p.tools.map .ofTool)

/-! ## The parts of a source -/

theorem text_declaredOf (p : Parameter) : (declaredOf p).text = p.declaration := by
  unfold declaredOf Parameter.declaration
  cases p.required <;> rfl

theorem Emitted.text_ofTool (t : Tool) : (ofTool t).text = block t := by
  have hparams : ", ".intercalate ((ofTool t).parameters.map Declared.text) =
      (Function.ofTool t).params := by
    simp only [ofTool, signatureOf, List.map_map, Function.comp_def, text_declaredOf]
    rfl
  rw [text, hparams, block, signature]
  rfl

theorem source_eq_sourceOf (p : Project) :
    source p = .ok (sourceOf p (literal p.serverName) (p.tools.map .ofTool)) := by
  have htexts : (p.tools.map Emitted.ofTool).map Emitted.text = p.tools.map block := by
    rw [List.map_map]
    exact List.map_congr_left fun t _ => Emitted.text_ofTool t
  have hsource : sourceOf p (literal p.serverName) (p.tools.map .ofTool) = assembled p := by
    unfold sourceOf assembled header
    rw [htexts]
  rw [hsource]
  exact source_eq p

/-! ## Parameters -/

theorem splitText_fst (fields : Json.Fields) (key : String) :
    (Property.splitText fields key).1 = (Entries.get? fields key).bind Json.text? := by
  unfold Property.splitText
  split
  · next s hs => rw [hs]; rfl
  · next hne =>
    cases hget : Entries.get? fields key with
    | none => rfl
    | some v =>
      cases v with
      | str s => exact absurd hget (hne s)
      | _ => rfl

theorem type_ofJson (entry : Json) :
    (Property.ofJson entry).type =
      ((entry.field? "type").bind Json.text?).map TypeTag.ofName := by
  cases entry with
  | obj fields => exact congrArg (Option.map TypeTag.ofName) (splitText_fst fields "type")
  | _ => rfl

theorem annotation_ofName (name : String) :
    ParamType.annotation (.ofTag? (some (TypeTag.ofName name))) =
      (Entries.get? annotations name).getD "str" := by
  by_cases hknown : ∃ tag ∈ TypeTag.known, tag.name = name
  · obtain ⟨tag, htag, rfl⟩ := hknown
    cases tag with
    | other name => simp [TypeTag.known] at htag
    | _ => rfl
  · have htag : TypeTag.ofName name = .other name := by
      have hfind : TypeTag.known.find? (fun tag => tag.name = name) = none := by
        rw [List.find?_eq_none]
        intro tag htag heq
        exact hknown ⟨tag, htag, of_decide_eq_true heq⟩
      rw [TypeTag.ofName, hfind, Option.getD_none]
    have hannotation : Entries.get? annotations name = none := by
      rw [Entries.get?, Option.map_eq_none_iff, List.find?_eq_none]
      intro entry hentry heq
      have hname : entry.1 ∈ TypeTag.known.map TypeTag.name := List.mem_map_of_mem hentry
      obtain ⟨tag, htag, htagname⟩ := List.mem_map.1 hname
      exact hknown ⟨tag, htag, htagname.trans (of_decide_eq_true heq)⟩
    rw [htag, hannotation]
    rfl

theorem annotation_ofJson (entry : Json) :
    ParamType.annotation (.ofTag? (Property.ofJson entry).type) = annotationIn entry := by
  rw [type_ofJson, annotationIn]
  cases (entry.field? "type").bind Json.text? with
  | none => rfl
  | some name => exact annotation_ofName name

theorem mem_filterMap_text? {name : String} {items : List Json} :
    name ∈ items.filterMap Json.text? ↔ .str name ∈ items := by
  rw [List.mem_filterMap]
  constructor
  · rintro ⟨v, hv, htext⟩
    cases v with
    | str s =>
      cases htext
      exact hv
    | _ => cases htext
  · intro h
    exact ⟨.str name, h, rfl⟩

variable {t : Tool}

theorem schemaField?_toJson (key : String) :
    schemaField? t.toJson key = Entries.get? t.inputSchema.document key := rfl

theorem required_iff (hdeclared : t.inputSchema = .ofDocument t.inputSchema.document)
    (name : String) :
    t.inputSchema.isRequired name = true ↔ .str name ∈ requiredIn t.toJson := by
  have hrequired : t.inputSchema.required = InputSchema.requiredOf t.inputSchema.document :=
    congrArg InputSchema.required hdeclared
  rw [InputSchema.isRequired, List.contains_iff_mem, hrequired, requiredIn, schemaField?_toJson,
    InputSchema.requiredOf]
  cases Entries.get? t.inputSchema.document "required" with
  | none => simp only [List.not_mem_nil]
  | some v =>
    cases v with
    | arr items => exact mem_filterMap_text?
    | _ => simp only [List.not_mem_nil]

theorem properties_eq (hdeclared : t.inputSchema = .ofDocument t.inputSchema.document) :
    t.inputSchema.properties =
      (propertiesIn t.toJson).map fun entry => (entry.1, Property.ofJson entry.2) := by
  have hproperties : t.inputSchema.properties =
      InputSchema.propertiesOf t.inputSchema.document :=
    congrArg InputSchema.properties hdeclared
  rw [hproperties, propertiesIn, schemaField?_toJson, InputSchema.propertiesOf]
  cases Entries.get? t.inputSchema.document "properties" with
  | none => rfl
  | some v => cases v <;> rfl

/-- The parameters of a function are what the entries of the tool's properties declare. -/
theorem declares_parameters (hdeclared : t.inputSchema = .ofDocument t.inputSchema.document) :
    List.Forall₂ (Declares (requiredIn t.toJson)) (propertiesIn t.toJson)
      (Emitted.ofTool t).parameters := by
  have hparameters : (Emitted.ofTool t).parameters = (propertiesIn t.toJson).map fun entry =>
      declaredOf ⟨entry.1, .ofTag? (Property.ofJson entry.2).type,
        t.inputSchema.isRequired entry.1, (Property.ofJson entry.2).description⟩ := by
    simp only [Emitted.ofTool, signatureOf, InputSchema.parameters, properties_eq hdeclared,
      List.map_map, Function.comp_def]
  rw [hparameters, List.forall₂_map_right_iff, List.forall₂_same]
  intro entry _
  refine ⟨rfl, annotation_ofJson entry.2, ?_⟩
  rw [← required_iff hdeclared]
  unfold declaredOf
  cases t.inputSchema.isRequired entry.1 <;> simp

/-! ## Calls -/

theorem handler_type_eq_iff :
    t.toJson.field? "handler_type" = some (.str "api") ↔ t.handler = .api := by
  have hfield : t.toJson.field? "handler_type" = some (.str t.handler.name) := rfl
  rw [hfield]
  cases t.handler with
  | static => simp [Handler.name]
  | api => simp [Handler.name]

theorem handler_code_eq_iff {code : String} :
    t.toJson.field? "handler_code" = some (.str code) ↔ t.handlerCode = some code := by
  have hfield : t.toJson.field? "handler_code" = some (.textOrNull t.handlerCode) := rfl
  rw [hfield]
  cases t.handlerCode with
  | none => simp [Json.textOrNull]
  | some stored => simp [Json.textOrNull]

/-- The address that a manifest says a tool asks is the one that its function asks. -/
theorem asks_iff {url : String} : Asks t.toJson url ↔ t.asked? = some url := by
  rw [Tool.asked?_eq_some_iff, ← handler_type_eq_iff, ← handler_code_eq_iff]
  constructor
  · rintro ⟨htype, hcode, hne⟩
    exact ⟨htype, hcode, hne⟩
  · rintro ⟨htype, hcode, hne⟩
    exact ⟨htype, hcode, hne⟩

theorem callLine_not_mem_staticBody (name : String) : callLine ∉ staticBody name := by
  rw [staticBody, List.mem_singleton]
  intro heq
  -- the third letters differ
  have hletter := congrArg (fun s => s.toList[2]?) heq
  simp [callLine] at hletter

theorem apiBody_eq (endpoint : String) (schema : InputSchema) :
    ∃ values, apiBody endpoint schema = callBody (literal endpoint) values := ⟨_, rfl⟩

theorem callLine_mem_iff : callLine ∈ bodyOf t ↔ ∃ url, t.asked? = some url := by
  rw [bodyOf_eq]
  cases t.asked? with
  | none =>
    constructor
    · intro h
      exact absurd h (callLine_not_mem_staticBody t.name)
    · rintro ⟨url, hurl⟩
      cases hurl
  | some endpoint =>
    obtain ⟨values, hbody⟩ := apiBody_eq endpoint t.inputSchema
    dsimp only
    rw [hbody]
    constructor
    · intro _
      exact ⟨endpoint, rfl⟩
    · intro _
      exact List.mem_cons_of_mem _ List.mem_cons_self

/-! ## Tool by tool -/

/-- The function of a tool is what the manifest says of the tool, if the tool's schema is what its
document declares. -/
theorem describes_ofTool (hdeclared : t.inputSchema = .ofDocument t.inputSchema.document) :
    Describes t.toJson (.ofTool t) where
  identifier_eq := ⟨t.name, rfl, rfl⟩
  parameters_eq := declares_parameters hdeclared
  calls_iff := by
    simp only [asks_iff]
    exact callLine_mem_iff
  body_eq url hurl := by
    have hasked := asks_iff.1 hurl
    obtain ⟨values, hbody⟩ := apiBody_eq url t.inputSchema
    refine ⟨literal url, values, ?_, decode?_literal url⟩
    rw [Emitted.ofTool, bodyOf_eq, hasked]
    exact hbody

end Server

/-- A stored input schema is what its document declares. -/
theorem InputSchema.declared_ofStored (tool : String) (stored : Option Json) :
    (ofStored tool stored).1 = .ofDocument (ofStored tool stored).1.document := by
  have hvalue : ∀ v, (ofValue tool v).1 = .ofDocument (ofValue tool v).1.document := by
    intro v
    cases v <;> rfl
  cases stored with
  | none => rfl
  | some v =>
    cases v with
    | str text =>
      rw [ofStored]
      split
      · rfl
      · split
        · next v _ => exact hvalue v
        · rfl
    | null => rfl
    | _ => exact hvalue _

namespace Server

/-- **A source and its manifest agree** for every project that a record stands for. -/
theorem agrees_of_toProject {record : ProjectRecord} {p : Project} {warnings : List SchemaWarning}
    (h : record.toProject = (.ok p, warnings)) : Agrees p where
  manifest_eq := rfl
  name_eq := ⟨literal p.serverName, p.serverName, source_eq_sourceOf p,
    decode?_literal p.serverName, rfl⟩
  tools_eq := by
    refine ⟨p.tools.map Tool.toJson, rfl, ?_⟩
    rw [List.forall₂_map_left_iff, List.forall₂_map_right_iff, List.forall₂_same]
    intro t ht
    obtain ⟨r, -, hschema⟩ := ProjectRecord.exists_of_toProject h t ht
    apply describes_ofTool
    rw [hschema]
    exact InputSchema.declared_ofStored r.name r.inputSchema

/-- A stored project in whose schema one property is no object and one required name is no name. -/
def lookupRecord : ProjectRecord :=
  ⟨" Look ups ", [⟨"Look up", none, some (.obj [
      ("properties", .obj [("id", .obj [("type", .str "integer")]), ("mode", .str "fast")]),
      ("required", .arr [.null, .str "id"])]), none, "api", some "https://x.test/\x7bid\x7d"⟩]⟩

def lookupProject : Project := ⟨" Look ups ", [{
  name := "Look up"
  description := none
  inputSchema := .ofDocument [
    ("properties", .obj [("id", .obj [("type", .str "integer")]), ("mode", .str "fast")]),
    ("required", .arr [.null, .str "id"])]
  outputSchema := none
  handler := .api
  handlerCode := some "https://x.test/\x7bid\x7d" }]⟩

theorem agrees_lookup :
    lookupRecord.toProject = (.ok lookupProject, []) ∧ Agrees lookupProject := by
  have h : lookupRecord.toProject = (.ok lookupProject, []) := rfl
  exact ⟨h, agrees_of_toProject h⟩

end Server

end ToolScaffold
