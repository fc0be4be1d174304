import ToolScaffold.Proofs.Json.RoundTrip
import ToolScaffold.Proofs.Record.Loaded
import ToolScaffold.Proofs.Record.Shape
import ToolScaffold.Proofs.Server.Assembly
import ToolScaffold.Proofs.Text.Blank

/-!
# A manifest is a project document

`reload_manifest`: the manifest of a project that was itself loaded from a document is read back as
a project with the server's name and the same tools, without a warning, and that project becomes the
same three texts.

A project that was loaded is `Written`: the input schema of each tool is the one its document
declares, and the document nests `schemaDepth` levels at most, as a stored tool stands three levels
deep. This is the depth at which a manifest keeps it.
-/

namespace ToolScaffold

open Json

/-- The levels that are left for an input schema in a document. -/
def schemaDepth : Nat := maxDepth - 3

/-- The schema is what its document declares, and the document can be read back. -/
structure InputSchema.Written (s : InputSchema) : Prop where
  declared : s = .ofDocument s.document
  nested : Nested schemaDepth (.obj s.document)
  integral : Integral (.obj s.document)

/-- The input schemas of all tools can be read back. -/
def Project.Written (p : Project) : Prop := ∀ t ∈ p.tools, t.inputSchema.Written

/-! ## Projects that were loaded -/

theorem InputSchema.written_empty : InputSchema.empty.Written where
  declared := rfl
  nested := .obj List.nodup_nil fun _ h => by cases h
  integral := .obj fun _ h => by cases h

/-- The input schema that a stored value stands for can be read back, unless the value is a text. -/
theorem InputSchema.written_ofStored (tool : String) {stored : Option Json}
    (h : ∀ v, stored = some v → Nested schemaDepth v ∧ Integral v)
    (hstr : ∀ s, stored ≠ some (.str s)) : (InputSchema.ofStored tool stored).1.Written := by
  cases stored with
  | none => exact written_empty
  | some v =>
    obtain ⟨hn, hi⟩ := h v rfl
    cases v with
    | obj document => exact ⟨rfl, hn, hi⟩
    | str s => exact absurd rfl (hstr s)
    | _ => exact written_empty

theorem ProjectRecord.integral_stored {document : Json} {record : ProjectRecord}
    (hi : Integral document) (h : ProjectRecord.ofJson? document = .ok record) {r : ToolRecord}
    (hr : r ∈ record.tools) {schema : Json} (hschema : r.inputSchema = some schema) :
    Integral schema := by
  obtain ⟨fields, items, tool, rfl, hitems, htool, hfield⟩ :=
    ProjectRecord.exists_of_stored h hr hschema
  have htools := integral_obj_iff.1 hi _ hitems
  have hobject := integral_arr_iff.1 htools _ htool
  exact integral_obj_iff.1 hobject _ hfield

/-- **A project that was loaded** can be read back. -/
theorem ProjectRecord.toProject_written {document : Json} {record : ProjectRecord} {p : Project}
    {warnings : List SchemaWarning} (hn : Nested maxDepth document) (hi : Integral document)
    (h : ProjectRecord.ofJson? document = .ok record)
    (hstr : ∀ r ∈ record.tools, ∀ s, r.inputSchema ≠ some (.str s))
    (hproject : record.toProject = (.ok p, warnings)) : p.Written := by
  intro t ht
  obtain ⟨r, hr, hschema⟩ := ProjectRecord.exists_of_toProject hproject t ht
  rw [hschema]
  exact InputSchema.written_ofStored r.name
    (fun v hv => ⟨nested_stored hn h hr hv, integral_stored hi h hr hv⟩) (hstr r hr)

/-! ## The document of a manifest -/

namespace Json

theorem nested_textOrNull (levels : Nat) (text : Option String) :
    Nested levels (.textOrNull text) := by
  cases text with
  | none => exact .null
  | some s => exact .str s

theorem integral_textOrNull (text : Option String) : Integral (.textOrNull text) := by
  cases text with
  | none => exact .null
  | some s => exact .str s

end Json

theorem Tool.nested_toJson {t : Tool} (ht : t.inputSchema.Written) :
    Nested (schemaDepth + 1) t.toJson := by
  have hkeys : ["name", "description", "input_schema", "output_schema", "handler_type",
      "handler_code"].Nodup := by decide
  refine .obj hkeys ?_
  simp only [List.forall_mem_cons]
  exact ⟨.str _, nested_textOrNull _ _, ht.nested, nested_textOrNull _ _, .str _,
    nested_textOrNull _ _, fun _ h => by cases h⟩

theorem Tool.integral_toJson {t : Tool} (ht : t.inputSchema.Written) : Integral t.toJson := by
  refine .obj ?_
  simp only [List.forall_mem_cons]
  exact ⟨.str _, integral_textOrNull _, ht.integral, integral_textOrNull _, .str _,
    integral_textOrNull _, fun _ h => by cases h⟩

namespace Project

variable {p : Project}

theorem nested_manifestJson (hp : p.Written) : Nested maxDepth (Server.manifestJson p) := by
  have htools : Nested (schemaDepth + 2) (.arr (p.tools.map Tool.toJson)) := by
    refine .arr fun v hv => ?_
    obtain ⟨t, ht, rfl⟩ := List.mem_map.1 hv
    exact Tool.nested_toJson (hp t ht)
  have hkeys : ["name", "version", "tools"].Nodup := by decide
  refine .obj hkeys ?_
  simp only [List.forall_mem_cons]
  exact ⟨.str _, .str _, htools, fun _ h => by cases h⟩

theorem integral_manifestJson (hp : p.Written) : Integral (Server.manifestJson p) := by
  have htools : Integral (.arr (p.tools.map Tool.toJson)) := by
    refine .arr fun v hv => ?_
    obtain ⟨t, ht, rfl⟩ := List.mem_map.1 hv
    exact Tool.integral_toJson (hp t ht)
  refine .obj ?_
  simp only [List.forall_mem_cons]
  exact ⟨.str _, .str _, htools, fun _ h => by cases h⟩

theorem read_manifest (hp : p.Written) :
    Json.read (Server.manifest p) = .ok (Server.manifestJson p) :=
  read_ofList_chars .indented (nested_manifestJson hp) (integral_manifestJson hp)

end Project

/-! ## The shape of a manifest -/

theorem shaped_textOrNull {fields : Json.Fields} {key : String} {text : Option String}
    (h : Entries.get? fields key = some (.textOrNull text)) :
    fields.Lacks key ∨ fields.HasText key := by
  cases text with
  | none => exact .inl (.inr h)
  | some s => exact .inr ⟨s, h⟩

theorem Tool.shaped_toJson (t : Tool) :
    ∃ fields, t.toJson = .obj fields ∧ ToolRecord.Shaped fields := by
  refine ⟨_, rfl, ⟨_, rfl⟩, ?_, .inr (.inr ⟨_, rfl⟩), ?_, ⟨_, rfl⟩, ?_⟩
  · exact shaped_textOrNull rfl
  · exact shaped_textOrNull rfl
  · exact shaped_textOrNull rfl

/-- A manifest has the shape of a project. -/
theorem Project.shaped_manifestJson (p : Project) :
    ProjectRecord.Shaped (Server.manifestJson p) := by
  refine ⟨_, rfl, ⟨_, rfl⟩, .inr ⟨_, rfl, fun v hv => ?_⟩⟩
  obtain ⟨t, -, rfl⟩ := List.mem_map.1 hv
  exact t.shaped_toJson

/-! ## The record of a manifest -/

/-- A tool as a manifest stores it. -/
def Tool.record (t : Tool) : ToolRecord where
  name := t.name
  description := t.description
  inputSchema := some t.inputSchema.toJson
  outputSchema := t.outputSchema
  handlerType := t.handler.name
  handlerCode := t.handlerCode

/-- A project as its manifest stores it. -/
def Project.record (p : Project) : ProjectRecord := ⟨p.serverName, p.tools.map Tool.record⟩

theorem Tool.ofJson?_toJson (t : Tool) : ToolRecord.ofJson? t.toJson = .ok t.record := by
  obtain ⟨name, description, inputSchema, outputSchema, handler, handlerCode⟩ := t
  cases description <;> cases outputSchema <;> cases handlerCode <;> rfl

theorem Tool.toTool_record {t : Tool} (ht : t.inputSchema.Written) :
    t.record.toTool = .ok (t, none) := by
  have hhandler : Handler.parse t.name t.handler.name = .ok t.handler := by
    cases t.handler <;> rfl
  have hschema : InputSchema.ofStored t.name (some t.inputSchema.toJson) = (t.inputSchema, none) :=
    congrArg (·, none) ht.declared.symm
  simp only [ToolRecord.toTool, record, hhandler, hschema]
  rfl

theorem ToolRecord.toTools_record {tools : List Tool} (h : ∀ t ∈ tools, t.inputSchema.Written) :
    ToolRecord.toTools (tools.map Tool.record) = (.ok tools, []) := by
  induction tools with
  | nil => rfl
  | cons t rest ih =>
    rw [List.map_cons, ToolRecord.toTools, Tool.toTool_record (h t List.mem_cons_self),
      ih fun u hu => h u (List.mem_cons_of_mem t hu)]
    rfl

namespace Project

variable {p : Project}

theorem ofJson?_manifestJson (p : Project) :
    ProjectRecord.ofJson? (Server.manifestJson p) = .ok p.record := by
  have htools : (p.tools.map Tool.toJson).mapM ToolRecord.ofJson? =
      (.ok (p.tools.map Tool.record) : Except Json.Cause _) := by
    rw [List.mapM_map]
    exact Server.mapM_eq_pure fun t _ => t.ofJson?_toJson
  have hitems : Json.Fields.items? [("name", .str p.serverName),
      ("version", .str Server.manifestVersion), ("tools", .arr (p.tools.map Tool.toJson))] "tools"
      ToolRecord.ofJson? = .ok (p.tools.map Tool.record) := htools
  simp only [Server.manifestJson, ProjectRecord.ofJson?, ProjectRecord.ofFields?, hitems]
  rfl

/-- **A manifest can be loaded**: it is the document of the project's record. -/
theorem parse_manifest (hp : p.Written) :
    ProjectRecord.parse .json (Server.manifest p) = .ok p.record := by
  simp only [ProjectRecord.parse, read_manifest hp, ProjectRecord.ofDocument, Json.Schema.check,
    ProjectRecord.violations_shape_eq_nil_iff.2 p.shaped_manifestJson, ofJson?_manifestJson]
  rfl

theorem toProject_record (hp : p.Written) :
    p.record.toProject = (.ok ⟨p.serverName, p.tools⟩, []) := by
  simp only [record, ProjectRecord.toProject, ToolRecord.toTools_record hp]
  rfl

/-! ## The same texts -/

theorem serverName_of_trim_eq {name : String} (htrim : Text.trim name = name) (hne : name ≠ "")
    (tools : List Tool) : (Project.mk name tools).serverName = name := by
  unfold serverName
  dsimp only
  rw [htrim, if_neg hne]

theorem serverName_serverName (p : Project) (tools : List Tool) :
    (Project.mk p.serverName tools).serverName = p.serverName := by
  by_cases hblank : Text.trim p.name = ""
  · have hname : p.serverName = Server.defaultName := if_pos hblank
    have hdefault : Text.trim Server.defaultName = Server.defaultName := by decide +kernel
    rw [hname]
    exact serverName_of_trim_eq hdefault (by decide) tools
  · have hname : p.serverName = Text.trim p.name := if_neg hblank
    rw [hname]
    exact serverName_of_trim_eq (Text.trim_trim p.name) hblank tools

theorem artifacts_serverName (p : Project) :
    (Project.mk p.serverName p.tools).artifacts = p.artifacts := by
  have hcontext : Server.context ⟨p.serverName, p.tools⟩ = Server.context p := by
    simp only [Server.context, serverName_serverName]
  have hmanifest : Server.manifest ⟨p.serverName, p.tools⟩ = Server.manifest p := by
    simp only [Server.manifest, Server.manifestJson, serverName_serverName]
  simp only [artifacts, Server.source, hcontext, hmanifest]

end Project

/-- **A manifest is loaded back** as the project that it was made of, under its server's name: if
that project was itself loaded from a document whose numbers are integers of 64 bits and which
stores no input schema as a text, then its manifest is a document, nothing is set aside in it, the
tools are the same, and they become the same three texts. -/
theorem reload_manifest {text : String} {document : Json} {record : ProjectRecord} {p : Project}
    {warnings : List SchemaWarning} (hread : Json.read text = .ok document)
    (hnumbers : document.Integral) (hparse : ProjectRecord.parse .json text = .ok record)
    (hstr : ∀ r ∈ record.tools, ∀ s, r.inputSchema ≠ some (.str s))
    (hproject : record.toProject = (.ok p, warnings)) :
    ∃ record' artifacts, ProjectRecord.parse .json (Server.manifest p) = .ok record' ∧
      record'.toProject = (.ok ⟨p.serverName, p.tools⟩, []) ∧ p.artifacts = .ok artifacts ∧
      (Project.mk p.serverName p.tools).artifacts = .ok artifacts := by
  -- `Project.Written` is what loading leaves behind and what reading the manifest needs
  obtain ⟨made, hmade, hrecord⟩ := ProjectRecord.exists_of_parse hparse
  obtain rfl : made = document := Except.ok.inj (hmade.symm.trans hread)
  have hp : p.Written :=
    ProjectRecord.toProject_written (read_nested hread) hnumbers hrecord hstr hproject
  have hartifacts : p.artifacts = .ok ⟨Server.assembled p, Server.manifest p, Server.readme⟩ := by
    rw [Project.artifacts, Server.source_eq]
    rfl
  exact ⟨p.record, _, Project.parse_manifest hp, Project.toProject_record hp, hartifacts,
    p.artifacts_serverName.trans hartifacts⟩

/-- A stored project whose name is trimmed. -/
def stored : Json := .obj [("name", .str " Search "), ("tools", .arr [.obj [
  ("name", .str "search"),
  ("input_schema", .obj [("properties", .obj [("page", .obj [("minimum", .num (.int 1))])])]),
  ("handler_type", .str "static")]])]

/-- The schema of its tool. -/
def storedSchema : Json.Fields :=
  [("properties", .obj [("page", .obj [("minimum", .num (.int 1))])])]

def storedRecord : ProjectRecord :=
  ⟨" Search ", [⟨"search", none, some (.obj storedSchema), none, "static", none⟩]⟩

def storedProject : Project :=
  ⟨" Search ", [{ Tool.ofName "search" .static with inputSchema := .ofDocument storedSchema }]⟩

theorem reload_stored : Json.read stored.compact = .ok stored ∧ stored.Integral ∧
    ProjectRecord.parse .json stored.compact = .ok storedRecord ∧
    (∀ r ∈ storedRecord.tools, ∀ s, r.inputSchema ≠ some (.str s)) ∧
    storedRecord.toProject = (.ok storedProject, []) ∧
    ∃ record' artifacts, ProjectRecord.parse .json (Server.manifest storedProject) = .ok record' ∧
      record'.toProject = (.ok ⟨storedProject.serverName, storedProject.tools⟩, []) ∧
      storedProject.artifacts = .ok artifacts ∧
      (Project.mk storedProject.serverName storedProject.tools).artifacts = .ok artifacts := by
  have hnested : Nested maxDepth stored := by
    simp [maxDepth, stored, nested_obj_iff, nested_arr_iff, Nested.str, Nested.num,
      Entries.Distinct, Entries.keys]
  have hnumbers : stored.Integral := by
    simp [stored, integral_obj_iff, integral_arr_iff, integral_num_iff, Integral.str,
      Number.Integral]
  have hread : Json.read stored.compact = .ok stored :=
    read_ofList_chars .compact hnested hnumbers
  have hparse : ProjectRecord.parse .json stored.compact = .ok storedRecord := by
    rw [ProjectRecord.parse, hread]
    rfl
  have hstr : ∀ r ∈ storedRecord.tools, ∀ s, r.inputSchema ≠ some (.str s) := by
    simp [storedRecord]
  have hproject : storedRecord.toProject = (.ok storedProject, []) := rfl
  exact ⟨hread, hnumbers, hparse, hstr, hproject,
    reload_manifest hread hnumbers hparse hstr hproject⟩

end ToolScaffold
