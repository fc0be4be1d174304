import ToolScaffold.Proofs.Json.RoundTrip
import ToolScaffold.Record

/-!
# Input schemas stored as texts

A record holds its input schema as an object or as the text of one. `toTool_storing_text`: both
stand for the same tool, or fail for the same handler, and nothing is set aside, whichever way the
text is laid out. The text is read back as the document that it was written for, and it is not
blank, so it is not taken for a missing schema.
-/

namespace ToolScaffold

open Json

/-- The text of an object begins with its brace. -/
theorem Json.isBlank_chars_obj (layout : Layout) (fields : Fields) :
    Text.isBlank (String.ofList (chars layout 0 (.obj fields))) = false := by
  have hbrace : ∃ tail, chars layout 0 (.obj fields) = '\x7b' :: tail := by
    cases fields with
    | nil => exact ⟨['\x7d'], by rw [chars]⟩
    | cons field rest => exact ⟨_, by rw [chars]; rfl⟩
  obtain ⟨tail, htail⟩ := hbrace
  have hchar : Text.isBlankChar '\x7b' = false := by decide
  rw [Text.isBlank, String.toList_ofList, htail, List.all_cons, hchar, Bool.false_and]

/-- The texts of a value, in either layout. -/
def Json.IsText (v : Json) (text : String) : Prop := text = v.compact ∨ text = v.indented

theorem Json.IsText.exists_layout {v : Json} {text : String} (h : v.IsText text) :
    ∃ layout, text = String.ofList (chars layout 0 v) := by
  rcases h with rfl | rfl
  · exact ⟨.compact, rfl⟩
  · exact ⟨.indented, rfl⟩

/-- A stored text stands for the document that it was written for. -/
theorem InputSchema.ofStored_text (tool : String) {document : Fields}
    (hnested : Nested maxDepth (.obj document)) (hnumbers : Integral (.obj document))
    {text : String} (htext : Json.IsText (.obj document) text) :
    ofStored tool (some (.str text)) = (.ofDocument document, none) := by
  obtain ⟨layout, rfl⟩ := htext.exists_layout
  have hread := read_ofList_chars layout hnested hnumbers
  simp only [ofStored, isBlank_chars_obj, Bool.false_eq_true, ↓reduceIte, hread]
  rfl

namespace ToolRecord

/-- The record with this value as its input schema. -/
def storing (r : ToolRecord) (v : Json) : ToolRecord := { r with inputSchema := some v }

/-- The tool of a record, but for its handler and its input schema. -/
def toolWith (r : ToolRecord) (schema : InputSchema) (handler : Handler) : Tool where
  name := r.name
  description := r.description
  inputSchema := schema
  outputSchema := r.outputSchema
  handler
  handlerCode := r.handlerCode

/-- What a record stands for depends on its schema only through what the schema stands for. -/
theorem toTool_storing {r : ToolRecord} {v : Json} {schema : InputSchema}
    (h : InputSchema.ofStored r.name (some v) = (schema, none)) :
    (r.storing v).toTool =
      (Handler.parse r.name r.handlerType).map fun handler =>
        (r.toolWith schema handler, none) := by
  simp only [toTool, storing, h]
  cases Handler.parse r.name r.handlerType <;> rfl

/-- **An input schema stored as a text** means what the object means that the text was written for:
the record stands for the same tool, with nothing set aside, or asks for the same handler that does
not exist. -/
theorem toTool_storing_text (r : ToolRecord) {document : Fields}
    (hnested : Nested maxDepth (.obj document)) (hnumbers : Integral (.obj document))
    {text : String} (htext : Json.IsText (.obj document) text) :
    (r.storing (.str text)).toTool = (r.storing (.obj document)).toTool ∧
      (r.storing (.obj document)).toTool = (Handler.parse r.name r.handlerType).map fun handler =>
        (r.toolWith (.ofDocument document) handler, none) := by
  have hobject : (r.storing (.obj document)).toTool = (Handler.parse r.name r.handlerType).map
      fun handler => (r.toolWith (.ofDocument document) handler, none) := toTool_storing rfl
  have hstored := InputSchema.ofStored_text r.name hnested hnumbers htext
  exact ⟨(toTool_storing hstored).trans hobject.symm, hobject⟩

/-- A schema whose property has a default with characters that are escaped in a text. -/
def quotedSchema : Fields :=
  [("properties", .obj [("sep\t", .obj [("type", .str "string"), ("default", .str "\"\\\n")])]),
    ("required", .arr [.str "sep\t", .num (.int (-1))])]

def quotedRecord : ToolRecord := ⟨"Split", some "", none, none, "api", some "https://x.test"⟩

theorem toTool_storing_text_quoted :
    Nested maxDepth (.obj quotedSchema) ∧ Integral (.obj quotedSchema) ∧
      (quotedRecord.storing (.str (Json.indented (.obj quotedSchema)))).toTool =
        .ok (quotedRecord.toolWith (.ofDocument quotedSchema) .api, none) := by
  have hnested : Nested maxDepth (.obj quotedSchema) := by
    simp [maxDepth, quotedSchema, nested_obj_iff, nested_arr_iff, Nested.str, Nested.num,
      Entries.Distinct, Entries.keys]
  have hnumbers : Integral (.obj quotedSchema) := by
    simp [quotedSchema, integral_obj_iff, integral_arr_iff, integral_num_iff, Integral.str,
      Number.Integral]
  obtain ⟨hsame, hobject⟩ := toTool_storing_text quotedRecord hnested hnumbers (.inr rfl)
  refine ⟨hnested, hnumbers, ?_⟩
  rw [hsame, hobject]
  rfl

end ToolRecord

end ToolScaffold
