import Mathlib.Data.List.Forall2
import ToolScaffold.Proofs.Json.RoundTrip
import ToolScaffold.Proofs.Json.Schema
import ToolScaffold.Proofs.Record.Loaded

/-!
# The shape of a project document

What a document must be like is written down twice: as a schema that is checked first, and in the
reader that takes the record out of the document afterwards. `parse_shaped`: the two agree. A
document is read exactly if it is `Shaped`, the record that is read `Holds` what the document says,
and every other document is refused by the check, so that the reader never fails.
-/

namespace ToolScaffold

open Json

/-! ## What a document says -/

namespace Json.Fields

/-- The key is absent or null. -/
def Lacks (fields : Fields) (key : String) : Prop :=
  Entries.get? fields key = none ∨ Entries.get? fields key = some .null

/-- The value under the key is a text. -/
def HasText (fields : Fields) (key : String) : Prop :=
  ∃ s, Entries.get? fields key = some (.str s)

/-- The value under the key is the text, or there is none. -/
def HoldsText (fields : Fields) (key : String) : Option String → Prop
  | some s => Entries.get? fields key = some (.str s)
  | none => fields.Lacks key

end Json.Fields

/-- The fields are those of a stored tool. -/
structure ToolRecord.Shaped (fields : Json.Fields) : Prop where
  name : fields.HasText "name"
  description : fields.Lacks "description" ∨ fields.HasText "description"
  input_schema : fields.Lacks "input_schema" ∨ fields.HasText "input_schema" ∨
    ∃ document, Entries.get? fields "input_schema" = some (.obj document)
  output_schema : fields.Lacks "output_schema" ∨ fields.HasText "output_schema"
  handler_type : fields.HasText "handler_type"
  handler_code : fields.Lacks "handler_code" ∨ fields.HasText "handler_code"

/-- The document is that of a stored project. -/
def ProjectRecord.Shaped (document : Json) : Prop :=
  ∃ fields : Json.Fields, document = .obj fields ∧ fields.HasText "name" ∧
    (Entries.get? fields "tools" = none ∨ ∃ items, Entries.get? fields "tools" = some (.arr items) ∧
      ∀ v ∈ items, ∃ tool, v = .obj tool ∧ ToolRecord.Shaped tool)

/-- The record holds what the fields of a stored tool say. -/
structure ToolRecord.Holds (fields : Json.Fields) (r : ToolRecord) : Prop where
  name : Entries.get? fields "name" = some (.str r.name)
  description : fields.HoldsText "description" r.description
  input_schema : match r.inputSchema with
    | some v => v ≠ .null ∧ Entries.get? fields "input_schema" = some v
    | none => fields.Lacks "input_schema"
  output_schema : fields.HoldsText "output_schema" r.outputSchema
  handler_type : Entries.get? fields "handler_type" = some (.str r.handlerType)
  handler_code : fields.HoldsText "handler_code" r.handlerCode

/-- The record holds what the document of a stored project says. -/
def ProjectRecord.Holds (document : Json) (r : ProjectRecord) : Prop :=
  ∃ fields : Json.Fields, document = .obj fields ∧ Entries.get? fields "name" = some (.str r.name) ∧
    ((Entries.get? fields "tools" = none ∧ r.tools = []) ∨
      ∃ items, Entries.get? fields "tools" = some (.arr items) ∧
        List.Forall₂ (fun v tool => ∃ fields, v = .obj fields ∧ ToolRecord.Holds fields tool)
          items r.tools)

/-! ## The check -/

section Check

open Json.Schema

variable {fields : Json.Fields} {key : String}

theorem passes_text_iff {v : Json} : (oneOf [.string]).Passes v ↔ ∃ s, v = .str s := by
  rw [passes_oneOf_iff (List.cons_ne_nil _ _)]
  cases v <;> simp [TypeName.admits]

/-- A text has to be under the key. -/
theorem requires_text_iff : ((∃ w, Entries.get? fields key = some w) ∧
      ∀ w, Entries.get? fields key = some w → (oneOf [.string]).Passes w) ↔ fields.HasText key := by
  constructor
  · rintro ⟨⟨w, hw⟩, h⟩
    obtain ⟨s, rfl⟩ := passes_text_iff.1 (h w hw)
    exact ⟨s, hw⟩
  · rintro ⟨s, hs⟩
    refine ⟨⟨_, hs⟩, fun w hw => ?_⟩
    rw [hs] at hw
    exact passes_text_iff.2 ⟨s, (Option.some.inj hw).symm⟩

/-- A text may be under the key. -/
theorem admits_text_iff : (∀ w, Entries.get? fields key = some w →
      (oneOf [.string, .null]).Passes w) ↔ fields.Lacks key ∨ fields.HasText key := by
  simp only [passes_oneOf_iff (List.cons_ne_nil _ _), Fields.Lacks, Fields.HasText]
  cases Entries.get? fields key with
  | none => simp
  | some w => cases w <;> simp [TypeName.admits]

/-- An input schema may be under the key. -/
theorem admits_schema_iff : (∀ w, Entries.get? fields key = some w →
      (oneOf [.object, .string, .null]).Passes w) ↔
    fields.Lacks key ∨ fields.HasText key ∨
      ∃ document, Entries.get? fields key = some (.obj document) := by
  simp only [passes_oneOf_iff (List.cons_ne_nil _ _), Fields.Lacks, Fields.HasText]
  cases Entries.get? fields key with
  | none => simp
  | some w => cases w <;> simp [TypeName.admits]

theorem ProjectRecord.passes_toolShape_iff {v : Json} : ProjectRecord.toolShape.Passes v ↔
    ∃ fields, v = .obj fields ∧ ToolRecord.Shaped fields := by
  rw [ProjectRecord.toolShape, passes_object_iff]
  refine exists_congr fun fields => and_congr_right fun _ => ?_
  simp only [List.forall_mem_cons, List.not_mem_nil, false_implies, implies_true, and_true,
    admits_text_iff, admits_schema_iff]
  constructor
  · rintro ⟨⟨hname, hhandler⟩, hnames, hdescription, hinput, houtput, hhandlers, hcode⟩
    exact ⟨requires_text_iff.1 ⟨hname, hnames⟩, hdescription, hinput, houtput,
      requires_text_iff.1 ⟨hhandler, hhandlers⟩, hcode⟩
  · intro h
    obtain ⟨hname, hnames⟩ := requires_text_iff.2 h.name
    obtain ⟨hhandler, hhandlers⟩ := requires_text_iff.2 h.handler_type
    exact ⟨⟨hname, hhandler⟩, hnames, h.description, h.input_schema, h.output_schema, hhandlers,
      h.handler_code⟩

/-- **The check** finds nothing wrong exactly with the documents of stored projects. -/
theorem ProjectRecord.violations_shape_eq_nil_iff {document : Json} :
    ProjectRecord.shape.violations document = [] ↔ ProjectRecord.Shaped document := by
  rw [violations_eq_nil_iff_passes, ProjectRecord.shape, passes_object_iff]
  refine exists_congr fun fields => and_congr_right fun _ => ?_
  simp only [List.forall_mem_cons, List.not_mem_nil, false_implies, implies_true, and_true,
    passes_list_iff, ProjectRecord.passes_toolShape_iff]
  rw [← and_assoc, requires_text_iff]
  refine and_congr_right fun _ => ?_
  cases Entries.get? fields "tools" with
  | none => simp
  | some v => simp

end Check

/-! ## The reader -/

section Reader

variable {fields : Json.Fields} {key : String}

theorem text?_of_get? {s : String} (h : Entries.get? fields key = some (.str s)) :
    fields.text? key = .ok s := by
  rw [Fields.text?, h]

theorem optionalText?_of_holds {text : Option String} (h : fields.HoldsText key text) :
    fields.optionalText? key = .ok text := by
  cases text with
  | some s => rw [Fields.optionalText?, show Entries.get? fields key = some (.str s) from h]
  | none => rcases h with h | h <;> rw [Fields.optionalText?, h]

/-- The reader takes out of the fields of a tool what they say. -/
theorem ToolRecord.ofFields?_of_holds {r : ToolRecord} (h : r.Holds fields) :
    ToolRecord.ofFields? fields = .ok r := by
  have hschema : inputSchemaOf fields = r.inputSchema := by
    have hinput := h.input_schema
    unfold inputSchemaOf
    cases hr : r.inputSchema with
    | none =>
      rw [hr] at hinput
      rcases hinput with hinput | hinput <;> rw [hinput]
    | some v =>
      rw [hr] at hinput
      obtain ⟨hne, hv⟩ := hinput
      rw [hv]
      split
      · next heq => exact absurd (Option.some.inj heq) hne
      · rfl
  simp only [ofFields?, text?_of_get? h.name, text?_of_get? h.handler_type,
    optionalText?_of_holds h.description, optionalText?_of_holds h.output_schema,
    optionalText?_of_holds h.handler_code, hschema]
  rfl

theorem exists_forall₂ {α β : Type} {R : α → β → Prop} {xs : List α} (h : ∀ x ∈ xs, ∃ y, R x y) :
    ∃ ys, List.Forall₂ R xs ys := by
  induction xs with
  | nil => exact ⟨[], .nil⟩
  | cons x rest ih =>
    obtain ⟨y, hy⟩ := h x List.mem_cons_self
    obtain ⟨ys, hys⟩ := ih fun z hz => h z (List.mem_cons_of_mem x hz)
    exact ⟨y :: ys, .cons hy hys⟩

theorem mapM_eq_ok_of_forall₂ {ε α β : Type} {f : α → Except ε β} {xs : List α} {ys : List β}
    (h : List.Forall₂ (fun x y => f x = .ok y) xs ys) : xs.mapM f = .ok ys := by
  induction h with
  | nil => rfl
  | cons hfirst _ ih =>
    rw [List.mapM_cons, hfirst, ih]
    rfl

/-- **The reader** takes out of a document what it says. -/
theorem ProjectRecord.ofJson?_of_holds {document : Json} {r : ProjectRecord}
    (h : r.Holds document) : ProjectRecord.ofJson? document = .ok r := by
  obtain ⟨fields, rfl, hname, htools⟩ := h
  have hitems : Json.Fields.items? fields "tools" ToolRecord.ofJson? = .ok r.tools := by
    rcases htools with ⟨hnone, htools⟩ | ⟨items, hitems, htools⟩
    · rw [Json.Fields.items?, hnone, htools]
    · rw [Json.Fields.items?, hitems]
      refine mapM_eq_ok_of_forall₂ (htools.imp ?_)
      rintro _ tool ⟨toolFields, rfl, htool⟩
      exact ToolRecord.ofFields?_of_holds htool
  simp only [ofJson?, ofFields?, text?_of_get? hname, hitems]
  rfl

end Reader

/-! ## Documents and records -/

theorem exists_holdsText {fields : Json.Fields} {key : String}
    (h : fields.Lacks key ∨ fields.HasText key) : ∃ text, fields.HoldsText key text := by
  rcases h with h | ⟨s, hs⟩
  · exact ⟨none, h⟩
  · exact ⟨some s, hs⟩

theorem ToolRecord.exists_holds {fields : Json.Fields} (h : ToolRecord.Shaped fields) :
    ∃ r, ToolRecord.Holds fields r := by
  obtain ⟨name, hname⟩ := h.name
  obtain ⟨handlerType, hhandler⟩ := h.handler_type
  obtain ⟨description, hdescription⟩ := exists_holdsText h.description
  obtain ⟨outputSchema, houtput⟩ := exists_holdsText h.output_schema
  obtain ⟨handlerCode, hcode⟩ := exists_holdsText h.handler_code
  rcases h.input_schema with hinput | ⟨s, hs⟩ | ⟨document, hdocument⟩
  · exact ⟨⟨name, description, none, outputSchema, handlerType, handlerCode⟩,
      hname, hdescription, hinput, houtput, hhandler, hcode⟩
  · exact ⟨⟨name, description, some (.str s), outputSchema, handlerType, handlerCode⟩,
      hname, hdescription, ⟨by simp, hs⟩, houtput, hhandler, hcode⟩
  · exact ⟨⟨name, description, some (.obj document), outputSchema, handlerType, handlerCode⟩,
      hname, hdescription, ⟨by simp, hdocument⟩, houtput, hhandler, hcode⟩

/-- A document of the right shape says what a record holds. -/
theorem ProjectRecord.exists_holds {document : Json} (h : ProjectRecord.Shaped document) :
    ∃ r, ProjectRecord.Holds document r := by
  obtain ⟨fields, rfl, ⟨name, hname⟩, htools⟩ := h
  rcases htools with hnone | ⟨items, hitems, hshaped⟩
  · exact ⟨⟨name, []⟩, fields, rfl, hname, .inl ⟨hnone, rfl⟩⟩
  · have hrecords : ∀ v ∈ items, ∃ r, ∃ tool, v = .obj tool ∧ ToolRecord.Holds tool r := by
      intro v hv
      obtain ⟨tool, rfl, htool⟩ := hshaped v hv
      obtain ⟨r, hr⟩ := ToolRecord.exists_holds htool
      exact ⟨r, tool, rfl, hr⟩
    obtain ⟨tools, htools⟩ := exists_forall₂ hrecords
    exact ⟨⟨name, tools⟩, fields, rfl, hname, .inr ⟨items, hitems, htools⟩⟩

/-! ## Both together -/

theorem ProjectRecord.ofDocument_of_shaped {document : Json}
    (h : ProjectRecord.Shaped document) :
    ∃ r, ofDocument document = .ok r ∧ ProjectRecord.Holds document r := by
  obtain ⟨r, hr⟩ := exists_holds h
  refine ⟨r, ?_, hr⟩
  simp only [ofDocument, Json.Schema.check, violations_shape_eq_nil_iff.2 h,
    ofJson?_of_holds hr]
  rfl

theorem ProjectRecord.ofDocument_of_not_shaped {document : Json}
    (h : ¬ProjectRecord.Shaped document) :
    ∃ violation others, ofDocument document = .error (.shape (violation :: others)) := by
  rw [← violations_shape_eq_nil_iff] at h
  obtain ⟨violation, others, heq⟩ := List.exists_cons_of_ne_nil h
  refine ⟨violation, others, ?_⟩
  simp only [ofDocument, Json.Schema.check, heq]
  rfl

/-- **The check and the reader agree**: a text that reads as a document is a project exactly if the
document has the right shape, the project's record holds what the document says, and every other
document is refused by the check. -/
theorem ProjectRecord.parse_shaped {text : String} {document : Json}
    (hread : Json.read text = .ok document) :
    ((∃ r, parse .json text = .ok r) ↔ ProjectRecord.Shaped document) ∧
      (∀ r, parse .json text = .ok r → ProjectRecord.Holds document r) ∧
      (¬ProjectRecord.Shaped document →
        ∃ violation others, parse .json text = .error (.shape (violation :: others))) := by
  have hparse : parse .json text = ofDocument document := by
    rw [parse, hread]
  rw [hparse]
  by_cases hshaped : ProjectRecord.Shaped document
  · obtain ⟨record, hrecord, hholds⟩ := ofDocument_of_shaped hshaped
    refine ⟨iff_of_true ⟨record, hrecord⟩ hshaped, ?_, fun h => absurd hshaped h⟩
    intro r hr
    rw [hrecord] at hr
    exact Except.ok.inj hr ▸ hholds
  · obtain ⟨violation, others, hrefused⟩ := ofDocument_of_not_shaped hshaped
    refine ⟨iff_of_false ?_ hshaped, ?_, fun _ => ⟨violation, others, hrefused⟩⟩
    · rintro ⟨r, hr⟩
      rw [hrefused] at hr
      cases hr
    · intro r hr
      rw [hrefused] at hr
      cases hr

/-- A project with a key that means nothing, and a tool whose description is null, whose schema is
a text and which has no code. -/
def mailDocument : Json := .obj [("name", .str "Mail"), ("version", .num (.int 2)),
  ("tools", .arr [.obj [("handler_type", .str "api"), ("description", .null),
    ("name", .str "send"), ("input_schema", .str "\x7b\x7d")]])]

theorem parse_shaped_mail : Json.read mailDocument.compact = .ok mailDocument ∧
    ProjectRecord.Shaped mailDocument ∧
    ∃ r, ProjectRecord.parse .json mailDocument.compact = .ok r ∧
      ProjectRecord.Holds mailDocument r := by
  have hnested : Nested maxDepth mailDocument := by
    simp [maxDepth, mailDocument, nested_obj_iff, nested_arr_iff, Nested.str, Nested.num,
      Nested.null, Entries.Distinct, Entries.keys]
  have hnumbers : mailDocument.Integral := by
    simp [mailDocument, integral_obj_iff, integral_arr_iff, integral_num_iff, Integral.str,
      Integral.null, Number.Integral]
  have hread : Json.read mailDocument.compact = .ok mailDocument :=
    read_ofList_chars .compact hnested hnumbers
  have hshaped : ProjectRecord.Shaped mailDocument := by
    refine ⟨_, rfl, ⟨_, rfl⟩, .inr ⟨_, rfl, ?_⟩⟩
    rintro _ (_ | ⟨_, ⟨⟩⟩)
    exact ⟨_, rfl, ⟨_, rfl⟩, .inl (.inr rfl), .inr (.inl ⟨_, rfl⟩), .inl (.inl rfl), ⟨_, rfl⟩,
      .inl (.inl rfl)⟩
  obtain ⟨hiff, hholds, -⟩ := ProjectRecord.parse_shaped hread
  obtain ⟨r, hr⟩ := hiff.2 hshaped
  exact ⟨hread, hshaped, r, hr, hholds r hr⟩

end ToolScaffold
