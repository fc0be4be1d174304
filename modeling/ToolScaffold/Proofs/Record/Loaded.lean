import ToolScaffold.Proofs.Except
import ToolScaffold.Proofs.Json.Nested
import ToolScaffold.Record.Document

/-!
# Projects that were loaded

A project that was loaded comes from a document that could be read. `exists_of_stored`: an input
schema that a record of it holds stands in the document of a tool, which stands in the list of
tools. What is known about all documents is so known about the schemas of all tools
(`nested_stored`), which are made of what is stored (`exists_of_toProject`). As no key stands twice
in a document, every property of it is read (`InputSchema.propertiesOf_of_read`).
-/

namespace ToolScaffold

open Json

namespace ProjectRecord

/-- A project that was read from a text is made of the document of the text. -/
theorem exists_of_parse {text : String} {record : ProjectRecord}
    (hparse : parse .json text = .ok record) :
    ∃ document, Json.read text = .ok document ∧ ofJson? document = .ok record := by
  rw [parse] at hparse
  cases hread : Json.read text with
  | error e =>
    rw [hread] at hparse
    cases hparse
  | ok document =>
    rw [hread] at hparse
    obtain ⟨_, -, hmade⟩ := bind_eq_ok.1 hparse
    refine ⟨document, rfl, ?_⟩
    cases hjson : ofJson? document with
    | error cause =>
      rw [hjson] at hmade
      cases hmade
    | ok made =>
      rw [hjson] at hmade
      cases hmade
      rfl

end ProjectRecord

/-! ## Where an input schema stands -/

theorem ToolRecord.exists_of_stored {v : Json} {r : ToolRecord} (h : ToolRecord.ofJson? v = .ok r)
    {schema : Json} (hschema : r.inputSchema = some schema) :
    ∃ fields, v = .obj fields ∧ ("input_schema", schema) ∈ fields := by
  cases v with
  | obj fields =>
    have hstored : r.inputSchema = inputSchemaOf fields := by
      simp only [ofJson?, ofFields?] at h
      obtain ⟨name, -, h⟩ := bind_eq_ok.1 h
      obtain ⟨description, -, h⟩ := bind_eq_ok.1 h
      obtain ⟨output, -, h⟩ := bind_eq_ok.1 h
      obtain ⟨handler, -, h⟩ := bind_eq_ok.1 h
      obtain ⟨code, -, h⟩ := bind_eq_ok.1 h
      cases h
      rfl
    rw [hstored, inputSchemaOf] at hschema
    split at hschema
    · cases hschema
    · exact ⟨fields, rfl, Entries.mem_of_get?_eq_some hschema⟩
  | _ => cases h

/-- An input schema of a record stands three levels deep in the document of the project. -/
theorem ProjectRecord.exists_of_stored {document : Json} {record : ProjectRecord}
    (h : ProjectRecord.ofJson? document = .ok record) {r : ToolRecord} (hr : r ∈ record.tools)
    {schema : Json} (hschema : r.inputSchema = some schema) :
    ∃ fields items tool, document = .obj fields ∧ ("tools", .arr items) ∈ fields ∧
      .obj tool ∈ items ∧ ("input_schema", schema) ∈ tool := by
  cases document with
  | obj fields =>
    simp only [ofJson?, ofFields?] at h
    obtain ⟨name, -, h⟩ := bind_eq_ok.1 h
    obtain ⟨tools, htools, h⟩ := bind_eq_ok.1 h
    cases h
    unfold Json.Fields.items? at htools
    split at htools
    · next items hitems =>
      obtain ⟨v, hv, hrecord⟩ := exists_of_mapM_eq_ok htools r hr
      obtain ⟨tool, rfl, htool⟩ := ToolRecord.exists_of_stored hrecord hschema
      exact ⟨fields, items, tool, rfl, Entries.mem_of_get?_eq_some hitems, hv, htool⟩
    · cases htools
    · cases htools
      cases hr
  | _ => cases h

/-- An input schema of a record nests as deep as the document leaves room for. -/
theorem ProjectRecord.nested_stored {levels : Nat} {document : Json} {record : ProjectRecord}
    (hn : Nested (levels + 3) document) (h : ProjectRecord.ofJson? document = .ok record)
    {r : ToolRecord} (hr : r ∈ record.tools) {schema : Json}
    (hschema : r.inputSchema = some schema) : Nested levels schema := by
  obtain ⟨fields, items, tool, rfl, hitems, htool, hfield⟩ :=
    ProjectRecord.exists_of_stored h hr hschema
  have htools : Nested (levels + 2) (.arr items) := (nested_obj_iff.1 hn).2 _ hitems
  have hobject : Nested (levels + 1) (.obj tool) := nested_arr_iff.1 htools _ htool
  exact (nested_obj_iff.1 hobject).2 _ hfield

/-! ## The tools of a record -/

theorem ToolRecord.inputSchema_of_toTool {r : ToolRecord} {t : Tool}
    {warning : Option SchemaWarning} (h : r.toTool = .ok (t, warning)) :
    t.inputSchema = (InputSchema.ofStored r.name r.inputSchema).1 := by
  obtain ⟨handler, -, h⟩ := bind_eq_ok.1 h
  cases h
  rfl

theorem ToolRecord.exists_of_toTools {records : List ToolRecord} {tools : List Tool}
    (h : (ToolRecord.toTools records).1 = .ok tools) :
    ∀ t ∈ tools, ∃ r ∈ records, t.inputSchema = (InputSchema.ofStored r.name r.inputSchema).1 := by
  induction records generalizing tools with
  | nil =>
    cases h
    intro t ht
    cases ht
  | cons r rest ih =>
    rw [ToolRecord.toTools] at h
    cases hfirst : r.toTool with
    | error e =>
      rw [hfirst] at h
      cases h
    | ok made =>
      obtain ⟨first, warning⟩ := made
      rw [hfirst] at h
      cases hrest : (ToolRecord.toTools rest).1 with
      | error e =>
        simp only [hrest] at h
        cases h
      | ok others =>
        simp only [hrest] at h
        cases h
        intro t ht
        rcases List.mem_cons.1 ht with rfl | ht
        · exact ⟨r, List.mem_cons_self, inputSchema_of_toTool hfirst⟩
        · obtain ⟨r', hr', hschema⟩ := ih hrest t ht
          exact ⟨r', List.mem_cons_of_mem r hr', hschema⟩

theorem ProjectRecord.exists_of_toProject {record : ProjectRecord} {p : Project}
    {warnings : List SchemaWarning} (h : record.toProject = (.ok p, warnings)) :
    ∀ t ∈ p.tools, ∃ r ∈ record.tools,
      t.inputSchema = (InputSchema.ofStored r.name r.inputSchema).1 := by
  have hmap : (ToolRecord.toTools record.tools).1.map (Project.mk record.name) = .ok p :=
    congrArg Prod.fst h
  cases htools : (ToolRecord.toTools record.tools).1 with
  | error e =>
    rw [htools] at hmap
    cases hmap
  | ok tools =>
    rw [htools] at hmap
    cases hmap
    exact ToolRecord.exists_of_toTools htools

/-! ## All properties are read -/

/-- **Every property** of a document that was read from a text is a property of the schema. -/
theorem InputSchema.propertiesOf_of_read {text : String} {document entries : Json.Fields}
    (hread : Json.read text = .ok (.obj document))
    (hget : Entries.get? document "properties" = some (.obj entries)) :
    propertiesOf document = entries.map fun entry => (entry.1, Property.ofJson entry.2) := by
  have hfields := (nested_obj_iff.1 (read_nested hread)).2
  have hentries := hfields _ (Entries.mem_of_get?_eq_some hget)
  have hdistinct : entries.Distinct := (nested_obj_iff.1 hentries).1
  rw [propertiesOf, hget]
  exact congrArg (List.map _) (Entries.firsts_of_distinct hdistinct)

end ToolScaffold
