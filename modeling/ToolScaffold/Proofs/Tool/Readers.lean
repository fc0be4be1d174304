import ToolScaffold.Proofs.Json.Form
import ToolScaffold.Proofs.Json.RoundTrip
import ToolScaffold.Proofs.Record.Conversion

/-!
# Two readers of a tool

A tool is read either as such, by a reader that is strict about its handler and its input schema, or
as a record, which is turned into a tool afterwards. `readers_agree`: if the input schema is an
object or absent, the strict reader takes exactly what the record is turned into, and no warning is
given; if it is anything else, the strict reader fails.

This holds of fields that are given (`agree_ofFields?`), and of a text that reads as an object
(`agree_read`): the two forms take the same fields out of the text, whatever else is written there,
as each fits the other (`fits_record`, `fits_tool`).
-/

namespace ToolScaffold

open Json

/-- If there is a value under the key, it is an object. -/
def Json.Fields.ObjectOrAbsent (fields : Fields) (key : String) : Prop :=
  Entries.get? fields key = none ∨ ∃ document, Entries.get? fields key = some (.obj document)

section Fields

variable {fields : Fields} {t : Tool}

theorem Tool.inputSchemaOf?_eq_ok_iff {schema : InputSchema} :
    inputSchemaOf? fields = .ok schema ↔ fields.ObjectOrAbsent "input_schema" ∧
      schema = .ofDocument? (storedDocument? (ToolRecord.inputSchemaOf fields)) := by
  unfold inputSchemaOf? Fields.ObjectOrAbsent ToolRecord.inputSchemaOf
  cases Entries.get? fields "input_schema" with
  | none => simp [storedDocument?, InputSchema.ofDocument?, eq_comm]
  | some v => cases v <;> simp [storedDocument?, InputSchema.ofDocument?, eq_comm]

/-- No warning is given about a schema that is an object or absent. -/
theorem ToolRecord.ofStored_snd_of_objectOrAbsent (name : String)
    (h : fields.ObjectOrAbsent "input_schema") :
    (InputSchema.ofStored name (inputSchemaOf fields)).2 = none := by
  unfold inputSchemaOf
  rcases h with hnone | ⟨document, hdocument⟩
  · rw [hnone]
    rfl
  · rw [hdocument]
    rfl

theorem Tool.handlerOf?_eq_ok_iff {handler : Handler} :
    handlerOf? fields = .ok handler ↔ fields.text? "handler_type" = .ok handler.name := by
  rw [handlerOf?, bind_eq_ok]
  constructor
  · rintro ⟨name, hname, h⟩
    cases hfound : Handler.ofName? name with
    | none =>
      rw [hfound] at h
      cases h
    | some found =>
      rw [hfound] at h
      cases h
      rw [hname, Handler.ofName?_eq_some_iff.1 hfound]
  · intro h
    refine ⟨handler.name, h, ?_⟩
    rw [Handler.ofName?_eq_some_iff.2 rfl]
    rfl

theorem Tool.ofFields?_eq_ok_iff : ofFields? fields = .ok t ↔
    fields.text? "name" = .ok t.name ∧ fields.optionalText? "description" = .ok t.description ∧
      inputSchemaOf? fields = .ok t.inputSchema ∧
      fields.optionalText? "output_schema" = .ok t.outputSchema ∧
      handlerOf? fields = .ok t.handler ∧
      fields.optionalText? "handler_code" = .ok t.handlerCode := by
  simp only [ofFields?, bind_eq_ok]
  constructor
  · rintro ⟨name, hname, description, hdescription, schema, hschema, output, houtput, handler,
      hhandler, code, hcode, heq⟩
    cases heq
    exact ⟨hname, hdescription, hschema, houtput, hhandler, hcode⟩
  · rintro ⟨hname, hdescription, hschema, houtput, hhandler, hcode⟩
    exact ⟨_, hname, _, hdescription, _, hschema, _, houtput, _, hhandler, _, hcode, rfl⟩

theorem ToolRecord.ofFields?_eq_ok_iff {r : ToolRecord} : ofFields? fields = .ok r ↔
    fields.text? "name" = .ok r.name ∧ fields.optionalText? "description" = .ok r.description ∧
      inputSchemaOf fields = r.inputSchema ∧
      fields.optionalText? "output_schema" = .ok r.outputSchema ∧
      fields.text? "handler_type" = .ok r.handlerType ∧
      fields.optionalText? "handler_code" = .ok r.handlerCode := by
  simp only [ofFields?, bind_eq_ok]
  constructor
  · rintro ⟨name, hname, description, hdescription, output, houtput, handler, hhandler, code,
      hcode, heq⟩
    cases heq
    exact ⟨hname, hdescription, rfl, houtput, hhandler, hcode⟩
  · rintro ⟨hname, hdescription, hschema, houtput, hhandler, hcode⟩
    refine ⟨_, hname, _, hdescription, _, houtput, _, hhandler, _, hcode, ?_⟩
    rw [hschema]
    rfl

/-- **The strict reader** takes what the record is turned into without a warning. -/
theorem Tool.ofFields?_eq_ok_iff_toTool :
    Tool.ofFields? fields = .ok t ↔ fields.ObjectOrAbsent "input_schema" ∧
      ∃ r, ToolRecord.ofFields? fields = .ok r ∧ r.toTool = .ok (t, none) := by
  rw [Tool.ofFields?_eq_ok_iff]
  constructor
  · rintro ⟨hname, hdescription, hschema, houtput, hhandler, hcode⟩
    obtain ⟨hobject, hstored⟩ := Tool.inputSchemaOf?_eq_ok_iff.1 hschema
    have hquiet := ToolRecord.ofStored_snd_of_objectOrAbsent t.name hobject
    refine ⟨hobject, ⟨t.name, t.description, ToolRecord.inputSchemaOf fields, t.outputSchema,
      t.handler.name, t.handlerCode⟩, ?_, ?_⟩
    · exact ToolRecord.ofFields?_eq_ok_iff.2 ⟨hname, hdescription, rfl, houtput,
        Tool.handlerOf?_eq_ok_iff.1 hhandler, hcode⟩
    · exact ToolRecord.toTool_eq_ok_iff.2 ⟨⟨rfl, rfl, hstored, rfl, rfl, rfl⟩, hquiet⟩
  · rintro ⟨hobject, r, hr, htool⟩
    obtain ⟨hname, hdescription, hschema, houtput, hhandler, hcode⟩ :=
      ToolRecord.ofFields?_eq_ok_iff.1 hr
    obtain ⟨hstands, -⟩ := ToolRecord.toTool_eq_ok_iff.1 htool
    have hstored := hschema ▸ hstands.inputSchema_eq
    rw [hstands.name_eq, hstands.description_eq, hstands.outputSchema_eq, hstands.handlerCode_eq]
    exact ⟨hname, hdescription, Tool.inputSchemaOf?_eq_ok_iff.2 ⟨hobject, hstored⟩, houtput,
      Tool.handlerOf?_eq_ok_iff.2 (hstands.handler_eq ▸ hhandler), hcode⟩

theorem ToolRecord.warning_eq_none {r : ToolRecord} {warning : Option SchemaWarning}
    (hobject : fields.ObjectOrAbsent "input_schema") (hr : ToolRecord.ofFields? fields = .ok r)
    (htool : r.toTool = .ok (t, warning)) : warning = none := by
  obtain ⟨-, -, hschema, -⟩ := ToolRecord.ofFields?_eq_ok_iff.1 hr
  obtain ⟨-, hwarning⟩ := ToolRecord.toTool_eq_ok_iff.1 htool
  rw [← hwarning, ← hschema]
  exact ToolRecord.ofStored_snd_of_objectOrAbsent r.name hobject

end Fields

/-! ## From text -/

section Text

open Json.Reader Json.Reader.Form

theorem Json.readAs_eq_ok_iff {α : Type} {document : Nat → Reader Json}
    {make : Json → Except Cause α} {text : String} {a : α} : readAs document make text = .ok a ↔
      ∃ v r, (document maxDepth).run text.toList = .ok (v, r) ∧ make v = .ok a ∧
        r.dropWhile isSpace = [] := by
  rw [readAs, runWhole_eq_ok_iff]
  constructor
  · rintro ⟨r, h, hr⟩
    obtain ⟨v, s, hv, h⟩ := run_bind_eq_ok_iff.1 h
    obtain ⟨hmake, rfl⟩ := run_ofExcept_eq_ok_iff.1 h
    exact ⟨v, _, hv, hmake, hr⟩
  · rintro ⟨v, r, hv, hmake, hr⟩
    exact ⟨r, run_bind_eq_ok_iff.2 ⟨v, r, hv, run_ofExcept_eq_ok_iff.2 ⟨hmake, rfl⟩⟩, hr⟩

/-- The fields of a tool, with the readers of its input schema and its handler. -/
def toolFields (schema handler : Nat → Reader Json) : List Field := [
  ⟨"name", true, text⟩,
  ⟨"description", false, optional text⟩,
  ⟨"input_schema", false, schema⟩,
  ⟨"output_schema", false, optional text⟩,
  ⟨"handler_type", true, handler⟩,
  ⟨"handler_code", false, optional text⟩]

theorem fits_of_toolFields {levels : Nat} {good : String → Json → Prop} {F G : Form}
    {schema schema' handler handler' : Nat → Reader Json}
    (hF : F.fields = toolFields schema handler) (hG : G.fields = toolFields schema' handler')
    (hschema : Covers levels (good "input_schema") (schema levels) (schema' levels))
    (hhandler : Covers levels (good "handler_type") (handler levels) (handler' levels)) :
    Fits levels good F G := by
  have htext : ∀ name, Covers levels (good name) (text levels) (text levels) := fun name =>
    covers_of_takes (takes_text levels) (takes_text levels) fun _ h _ => h
  have hoptional : ∀ name, Covers levels (good name) (optional text levels)
      (optional text levels) := fun name =>
    covers_of_takes (takes_optional (takes_text levels)) (takes_optional (takes_text levels))
      fun _ h _ => h
  rw [Fits, hF, hG]
  exact .cons ⟨rfl, htext _⟩ (.cons ⟨rfl, hoptional _⟩ (.cons ⟨rfl, hschema⟩
    (.cons ⟨rfl, hoptional _⟩ (.cons ⟨rfl, hhandler⟩ (.cons ⟨rfl, hoptional _⟩ .nil)))))

theorem takes_stored (levels : Nat) : Takes levels (fun _ => True) (optional value levels) := by
  simpa only [or_true] using takes_optional (takes_value levels)

theorem ToolRecord.fits_self (levels : Nat) :
    Fits levels (fun _ _ => True) ToolRecord.form ToolRecord.form :=
  fits_of_toolFields rfl rfl (covers_of_takes (takes_stored levels) (takes_stored levels)
    fun _ h _ => h) (covers_of_takes (takes_text levels) (takes_text levels) fun _ h _ => h)

/-- What the strict reader takes, the other one takes, too, unless the handler is an object. -/
theorem Tool.fits_record (levels : Nat) :
    Fits levels (fun name v => name = "handler_type" → ∃ s, v = .str s) Tool.form
      ToolRecord.form := by
  refine fits_of_toolFields rfl rfl
    (covers_of_takes (takes_mapping levels) (takes_stored levels) fun _ _ _ => True.intro) ?_
  intro s a r h
  rcases run_tag_eq_ok h with hvalue | ⟨fields, hvalue⟩
  · exact ⟨a, hvalue, fun hgood => ⟨rfl, (takes_text levels s r a).2 ⟨hvalue, hgood rfl⟩⟩⟩
  · refine ⟨_, hvalue, fun hgood => ?_⟩
    obtain ⟨t, ht⟩ := hgood rfl
    cases ht

/-- The strict reader takes objects as schemas, and texts that name a handler. -/
theorem ToolRecord.fits_tool (levels : Nat) :
    Fits levels (fun name v => (name = "input_schema" → ∃ document, v = .obj document) ∧
      (name = "handler_type" → ∃ handler : Handler, v = .str handler.name)) ToolRecord.form
      Tool.form := by
  refine fits_of_toolFields rfl rfl
    (covers_of_takes (takes_stored levels) (takes_mapping levels) fun _ _ hgood => hgood.1 rfl) ?_
  intro s a r h
  obtain ⟨hvalue, -⟩ := (takes_text levels s r a).1 h
  refine ⟨a, hvalue, fun hgood => ⟨rfl, ?_⟩⟩
  obtain ⟨handler, rfl⟩ := hgood.2 rfl
  exact run_tag (List.mem_map_of_mem (by cases handler <;> decide)) hvalue

/-! ## Agreement -/

/-- The two ways to read the fields of a tool agree: as a tool directly, and as a record that is
turned into a tool. -/
structure Tool.Agree {ε : Type} (fields : Fields) (direct : Except ε Tool)
    (stored : Except ε ToolRecord) : Prop where
  ok_iff (t : Tool) : direct = .ok t ↔ fields.ObjectOrAbsent "input_schema" ∧
    ∃ r warning, stored = .ok r ∧ r.toTool = .ok (t, warning)
  silent {r : ToolRecord} {t : Tool} {warning : Option SchemaWarning}
    (hschema : fields.ObjectOrAbsent "input_schema") (hr : stored = .ok r)
    (htool : r.toTool = .ok (t, warning)) : warning = none

theorem Tool.agree_ofFields? (fields : Fields) :
    Tool.Agree fields (Tool.ofFields? fields) (ToolRecord.ofFields? fields) where
  ok_iff t := by
    rw [Tool.ofFields?_eq_ok_iff_toTool]
    refine and_congr_right fun hschema => exists_congr fun r => ?_
    constructor
    · rintro ⟨hr, htool⟩
      exact ⟨none, hr, htool⟩
    · rintro ⟨warning, hr, htool⟩
      obtain rfl := ToolRecord.warning_eq_none hschema hr htool
      exact ⟨hr, htool⟩
  silent := ToolRecord.warning_eq_none

/-- A record that was read from the text of an object holds the fields of the object. -/
theorem ToolRecord.exists_of_read {text : String} {fields : Fields} {r : ToolRecord}
    (hread : Json.read text = .ok (.obj fields)) (h : ToolRecord.read text = .ok r) :
    ∃ kept rest, (ToolRecord.form.read maxDepth).run text.toList = .ok (.obj kept, rest) ∧
      rest.dropWhile isSpace = [] ∧ ToolRecord.ofFields? kept = .ok r ∧
      ∀ name ∈ ToolRecord.form.names, Entries.get? kept name = Entries.get? fields name := by
  obtain ⟨v, rest, hrun, hmake, hrest⟩ := readAs_eq_ok_iff.1 h
  obtain ⟨r', hvalue, -⟩ := runWhole_eq_ok_iff.1 hread
  obtain ⟨kept, rfl, -, hkept, -⟩ := (ToolRecord.fits_self _).run_read hrun hvalue
    fun _ _ _ _ => True.intro
  exact ⟨kept, rest, hrun, hrest, hmake, hkept⟩

theorem Json.Fields.ObjectOrAbsent.congr {fields kept : Fields} {key : String}
    (h : Entries.get? kept key = Entries.get? fields key) :
    kept.ObjectOrAbsent key ↔ fields.ObjectOrAbsent key := by
  unfold Fields.ObjectOrAbsent
  rw [h]

section Agree

variable {fields : Fields} {handler text : String} {t : Tool}
  (hhandler : Entries.get? fields "handler_type" = some (.str handler))
  (hread : Json.read text = .ok (.obj fields))

include hhandler hread in
theorem ToolRecord.exists_of_read_tool (h : Tool.read text = .ok t) :
    fields.ObjectOrAbsent "input_schema" ∧
      ∃ r, ToolRecord.read text = .ok r ∧ r.toTool = .ok (t, none) := by
  obtain ⟨v, rest, hrun, hmake, hrest⟩ := readAs_eq_ok_iff.1 h
  obtain ⟨rest', hvalue, -⟩ := runWhole_eq_ok_iff.1 hread
  have hgood : Tool.form.AllGood (fun name v => name = "handler_type" → ∃ s, v = .str s)
      fields := by
    rintro _ - w hw rfl
    exact ⟨handler, Option.some.inj (hw.symm.trans hhandler)⟩
  obtain ⟨kept, rfl, -, hkept, hother⟩ := (Tool.fits_record _).run_read hrun hvalue hgood
  obtain ⟨hschema, r, hr, htool⟩ := Tool.ofFields?_eq_ok_iff_toTool.1 hmake
  refine ⟨(Fields.ObjectOrAbsent.congr (hkept _ (by decide))).1 hschema, r, ?_, htool⟩
  exact readAs_eq_ok_iff.2 ⟨_, rest, hother (bind_eq_ok.2 ⟨r, hr, rfl⟩), hr, hrest⟩

include hhandler hread in
theorem Tool.read_of_record {r : ToolRecord} (hschema : fields.ObjectOrAbsent "input_schema")
    (hr : ToolRecord.read text = .ok r) (htool : r.toTool = .ok (t, none)) :
    Tool.read text = .ok t := by
  obtain ⟨kept, rest, hrun, hrest, hmake, hkept⟩ := ToolRecord.exists_of_read hread hr
  obtain ⟨rest', hvalue, -⟩ := runWhole_eq_ok_iff.1 hread
  have hname : t.handler.name = handler := by
    obtain ⟨-, -, -, -, htext, -⟩ := ToolRecord.ofFields?_eq_ok_iff.1 hmake
    obtain ⟨hstands, -⟩ := ToolRecord.toTool_eq_ok_iff.1 htool
    rw [Fields.text?, hkept _ (by decide), hhandler] at htext
    rw [hstands.handler_eq, ← Except.ok.inj htext]
  have hgood : ToolRecord.form.AllGood (fun name v =>
      (name = "input_schema" → ∃ document, v = .obj document) ∧
        (name = "handler_type" → ∃ handler : Handler, v = .str handler.name)) fields := by
    rintro name - w hw
    constructor
    · rintro rfl
      rcases hschema with hnone | ⟨document, hdocument⟩
      · cases hw.symm.trans hnone
      · exact ⟨document, Option.some.inj (hw.symm.trans hdocument)⟩
    · rintro rfl
      exact ⟨t.handler, by rw [hname]; exact Option.some.inj (hw.symm.trans hhandler)⟩
  obtain ⟨kept', heq, -, -, hother⟩ := (ToolRecord.fits_tool _).run_read hrun hvalue hgood
  cases heq
  have hmade : Tool.ofFields? kept = .ok t := Tool.ofFields?_eq_ok_iff_toTool.2
    ⟨(Fields.ObjectOrAbsent.congr (hkept _ (by decide))).2 hschema, r, hmake, htool⟩
  exact readAs_eq_ok_iff.2 ⟨_, rest, hother (bind_eq_ok.2 ⟨t, hmade, rfl⟩), hmade, hrest⟩

include hread in
theorem ToolRecord.warning_eq_none_of_read {r : ToolRecord} {warning : Option SchemaWarning}
    (hschema : fields.ObjectOrAbsent "input_schema") (hr : ToolRecord.read text = .ok r)
    (htool : r.toTool = .ok (t, warning)) : warning = none := by
  obtain ⟨kept, rest, -, -, hmake, hkept⟩ := ToolRecord.exists_of_read hread hr
  have hschema' := (Fields.ObjectOrAbsent.congr (hkept _ (by decide))).2 hschema
  exact ToolRecord.warning_eq_none hschema' hmake htool

include hhandler hread in
theorem Tool.agree_read : Tool.Agree fields (Tool.read text) (ToolRecord.read text) where
  ok_iff t := by
    constructor
    · intro h
      obtain ⟨hschema, r, hr, htool⟩ := ToolRecord.exists_of_read_tool hhandler hread h
      exact ⟨hschema, r, none, hr, htool⟩
    · rintro ⟨hschema, r, warning, hr, htool⟩
      obtain rfl := ToolRecord.warning_eq_none_of_read hread hschema hr htool
      exact Tool.read_of_record hhandler hread hschema hr htool
  silent := ToolRecord.warning_eq_none_of_read hread

end Agree

/-- **The two readers of a tool agree** on every object that has a text as its handler, be it given
as a value or read from a text. -/
theorem Tool.readers_agree {fields : Fields} {handler : String}
    (h : Entries.get? fields "handler_type" = some (.str handler)) :
    Tool.Agree fields (Tool.ofJson? (.obj fields)) (ToolRecord.ofJson? (.obj fields)) ∧
      ∀ text, Json.read text = .ok (.obj fields) →
        Tool.Agree fields (Tool.read text) (ToolRecord.read text) :=
  ⟨Tool.agree_ofFields? fields, fun _ hread => Tool.agree_read h hread⟩

/-- The fields of a tool with an empty schema, no code and a key that means nothing. -/
def sendFields : Fields := [("handler_type", .str "api"), ("input_schema", .obj []),
  ("version", .num (.int 2)), ("name", .str "send"), ("handler_code", .null)]

theorem Tool.readers_agree_send : Entries.get? sendFields "handler_type" = some (.str "api") ∧
    Json.read (Json.obj sendFields).compact = .ok (.obj sendFields) ∧
    (∃ t r, Tool.ofJson? (.obj sendFields) = .ok t ∧
      ToolRecord.ofJson? (.obj sendFields) = .ok r ∧ r.toTool = .ok (t, none)) ∧
    ∃ t r, Tool.read (Json.obj sendFields).compact = .ok t ∧
      ToolRecord.read (Json.obj sendFields).compact = .ok r ∧ r.toTool = .ok (t, none) := by
  have hhandler : Entries.get? sendFields "handler_type" = some (.str "api") := rfl
  have hnested : Nested maxDepth (.obj sendFields) := by
    simp [maxDepth, sendFields, nested_obj_iff, Nested.str, Nested.num, Nested.null,
      Entries.Distinct, Entries.keys]
  have hnumbers : (Json.obj sendFields).Integral := by
    simp [sendFields, integral_obj_iff, integral_num_iff, Integral.str, Integral.null,
      Number.Integral]
  have hread : Json.read (Json.obj sendFields).compact = .ok (.obj sendFields) :=
    read_ofList_chars .compact hnested hnumbers
  have hrecord : ∀ {ε : Type} {direct : Except ε Tool} {stored : Except ε ToolRecord},
      Tool.Agree sendFields direct stored → direct.isOk = true →
        ∃ t r, direct = .ok t ∧ stored = .ok r ∧ r.toTool = .ok (t, none) := by
    intro ε direct stored hagree hok
    cases direct with
    | error e => cases hok
    | ok t =>
      obtain ⟨hschema, r, warning, hr, htool⟩ := (hagree.ok_iff t).1 rfl
      obtain rfl := hagree.silent hschema hr htool
      exact ⟨t, r, rfl, hr, htool⟩
  obtain ⟨hvalue, htext⟩ := Tool.readers_agree hhandler
  exact ⟨hhandler, hread, hrecord hvalue rfl, hrecord (htext _ hread) (by decide +kernel)⟩

end Text

end ToolScaffold
