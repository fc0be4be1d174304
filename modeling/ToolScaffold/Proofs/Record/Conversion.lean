import Mathlib.Data.List.Forall2
import ToolScaffold.Proofs.Host
import ToolScaffold.Proofs.Json.Scalar
import ToolScaffold.Proofs.Record.Loaded
import ToolScaffold.Record.Source

/-!
# How records are converted

Turning the record of a project into a project goes through its tools in order and stops at the
first that asks for a handler that does not exist. `converts_toProject`: that is the only way in
which it fails, a project that comes out holds the tools one by one (`ToolRecord.StandsFor`), and
the warnings are about the input schemas that were set aside on the way, one for each of them
(`InputSchema.SetAside`). These are the warnings in the journal (`on_convert`).

Which schemas are set aside is said without the blank texts, which stand for no schema: no blank
text is a document, so it never holds anything else than an object (`read_of_isBlank`).
-/

namespace ToolScaffold

open Json

/-! ## What a stored input schema holds -/

/-- The document that a stored input schema holds, as an object or as the text of one. -/
def storedDocument? : Option Json → Option Fields
  | some (.obj document) => some document
  | some (.str text) =>
    match Json.read text with
    | .ok v => v.fields?
    | .error _ => none
  | _ => none

/-- The input schema of a document, which is empty if there is none. -/
def InputSchema.ofDocument? : Option Fields → InputSchema
  | some document => .ofDocument document
  | none => .empty

/-- Why a stored input schema cannot be used. -/
inductive InputSchema.SetAside (tool : String) : Option Json → SchemaWarning → Prop
  | notJson {text : String} {error : ReadError} (hblank : Text.isBlank text = false)
    (hread : Json.read text = .error error) : SetAside tool (some (.str text)) (.notJson tool error)
  | textNotAnObject {text : String} {v : Json} (hread : Json.read text = .ok v)
    (hobject : ∀ document, v ≠ .obj document) :
    SetAside tool (some (.str text)) (.notAnObject tool v)
  | notAnObject {v : Json} (hnull : v ≠ .null) (htext : ∀ text, v ≠ .str text)
    (hobject : ∀ document, v ≠ .obj document) : SetAside tool (some v) (.notAnObject tool v)

/-! ## Blank texts -/

section Blank

open Json.Reader

theorem Text.isBlankChar_of_isDigit {c : Char} (h : c.isDigit = true) :
    Text.isBlankChar c = false := by
  have hrange : 0x30 ≤ c.toNat ∧ c.toNat ≤ 0x39 := by
    simpa [Char.isDigit, UInt32.le_iff_toNat_le] using h
  simp only [isBlankChar, blankRanges, Ranges.contains, List.any_cons, List.any_nil, Bool.or_false,
    Bool.or_eq_false_iff, Bool.and_eq_false_iff, decide_eq_false_iff_not]
  omega

/-- White space does not begin a value. -/
theorem Json.Reader.begins_of_isBlankChar {c : Char} (hc : Text.isBlankChar c = true) :
    c ≠ '[' ∧ c ≠ '\x7b' ∧ scalar c = failAtNext .notAValue := by
  have hne : ∀ d : Char, Text.isBlankChar d = false → c ≠ d := by
    rintro d hd rfl
    cases hd.symm.trans hc
  have hdigit : ¬c.isDigit = true := by
    intro h
    cases (Text.isBlankChar_of_isDigit h).symm.trans hc
  refine ⟨hne _ (by decide), hne _ (by decide), ?_⟩
  rw [scalar, if_neg (hne _ (by decide)), if_neg (hne _ (by decide)), if_neg (hne _ (by decide)),
    if_neg (hne _ (by decide)), if_neg hdigit, if_neg (hne _ (by decide))]

/-- **No blank text is a document.** -/
theorem Json.read_of_isBlank {text : String} (h : Text.isBlank text = true) :
    ∃ error, Json.read text = .error error := by
  have hvalue : ∃ failure, (value maxDepth).run text.toList = .error failure := by
    rw [maxDepth, value]
    simp only [next, run_bind, run_takeWhile, run_peek]
    cases hleft : text.toList.dropWhile isSpace with
    | nil => exact ⟨_, rfl⟩
    | cons c rest =>
      have hc : c ∈ text.toList :=
        (List.dropWhile_sublist isSpace).subset (hleft ▸ List.mem_cons_self)
      obtain ⟨hlist, hobject, hscalar⟩ := begins_of_isBlankChar (List.all_eq_true.1 h c hc)
      refine ⟨⟨.notAValue, c :: rest, 1⟩, ?_⟩
      simp only [List.head?_cons, if_neg hlist, if_neg hobject, hscalar]
      rfl
  obtain ⟨failure, hfailure⟩ := hvalue
  refine ⟨.ofFailure text.toList failure, ?_⟩
  unfold Json.read runWhole
  dsimp only
  rw [run_bind, hfailure]

end Blank

/-! ## One tool -/

namespace InputSchema

variable {tool : String} {stored : Option Json}

theorem ofValue_fst (tool : String) (v : Json) : (ofValue tool v).1 = .ofDocument? v.fields? := by
  cases v <;> rfl

theorem ofStored_fst (tool : String) (stored : Option Json) :
    (ofStored tool stored).1 = .ofDocument? (storedDocument? stored) := by
  cases stored with
  | none => rfl
  | some v =>
    cases v with
    | str text =>
      by_cases hblank : Text.isBlank text = true
      · obtain ⟨error, hread⟩ := read_of_isBlank hblank
        rw [ofStored, if_pos hblank, storedDocument?, hread]
        rfl
      · rw [ofStored, if_neg hblank, storedDocument?]
        cases Json.read text with
        | error error => rfl
        | ok v => exact ofValue_fst tool v
    | _ => rfl

theorem ofValue_snd_eq_some_iff {v : Json} {warning : SchemaWarning} :
    (ofValue tool v).2 = some warning ↔
      (∀ document, v ≠ .obj document) ∧ warning = .notAnObject tool v := by
  cases v <;> simp [ofValue, eq_comm]

/-- **A warning is given** for the schemas that cannot be used. -/
theorem ofStored_snd_eq_some_iff {warning : SchemaWarning} :
    (ofStored tool stored).2 = some warning ↔ SetAside tool stored warning := by
  constructor
  · intro h
    cases stored with
    | none => cases h
    | some v =>
      cases v with
      | null => cases h
      | str text =>
        rw [ofStored] at h
        split at h
        · cases h
        · next hblank =>
          cases hread : Json.read text with
          | error error =>
            rw [hread] at h
            cases h
            exact .notJson (Bool.eq_false_iff.2 hblank) hread
          | ok v =>
            rw [hread] at h
            obtain ⟨hobject, rfl⟩ := ofValue_snd_eq_some_iff.1 h
            exact .textNotAnObject hread hobject
      | _ =>
        obtain ⟨hobject, rfl⟩ := ofValue_snd_eq_some_iff.1 h
        exact .notAnObject (fun h => by cases h) (fun _ h => by cases h) hobject
  · intro h
    cases h with
    | notJson hblank hread => rw [ofStored, hblank, if_neg Bool.false_ne_true, hread]
    | @textNotAnObject text v hread hobject =>
      -- a blank text would not have been read
      have hblank : ¬Text.isBlank text = true := by
        intro hblank
        obtain ⟨error, herror⟩ := read_of_isBlank hblank
        cases hread.symm.trans herror
      rw [ofStored, if_neg hblank, hread]
      exact ofValue_snd_eq_some_iff.2 ⟨hobject, rfl⟩
    | @notAnObject v hnull htext hobject =>
      cases v with
      | null => exact absurd rfl hnull
      | str text => exact absurd rfl (htext text)
      | obj document => exact absurd rfl (hobject document)
      | _ => rfl

end InputSchema

theorem Handler.ofName?_eq_some_iff {name : String} {handler : Handler} :
    ofName? name = some handler ↔ handler.name = name := by
  constructor
  · intro h
    have hname := List.find?_some (p := fun handler : Handler => handler.name = name) h
    exact of_decide_eq_true hname
  · rintro rfl
    cases handler <;> decide

theorem Handler.parse_eq_ok_iff {tool name : String} {handler : Handler} :
    parse tool name = .ok handler ↔ handler.name = name := by
  rw [← ofName?_eq_some_iff, parse]
  cases ofName? name <;> simp

namespace ToolRecord

/-- The record asks for a handler that exists. -/
def Supported (r : ToolRecord) : Prop := r.handlerType = "static" ∨ r.handlerType = "api"

/-- The tool is what the record says. -/
structure StandsFor (r : ToolRecord) (t : Tool) : Prop where
  name_eq : t.name = r.name
  description_eq : t.description = r.description
  inputSchema_eq : t.inputSchema = .ofDocument? (storedDocument? r.inputSchema)
  outputSchema_eq : t.outputSchema = r.outputSchema
  handler_eq : t.handler.name = r.handlerType
  handlerCode_eq : t.handlerCode = r.handlerCode

variable {r : ToolRecord} {t : Tool}

theorem StandsFor.supported (h : r.StandsFor t) : r.Supported := by
  rw [Supported, ← h.handler_eq]
  cases t.handler
  · exact .inl rfl
  · exact .inr rfl

theorem toTool_eq_ok_iff {warning : Option SchemaWarning} : r.toTool = .ok (t, warning) ↔
    r.StandsFor t ∧ (InputSchema.ofStored r.name r.inputSchema).2 = warning := by
  rw [toTool, bind_eq_ok]
  constructor
  · rintro ⟨handler, hhandler, heq⟩
    cases heq
    have hname := Handler.parse_eq_ok_iff.1 hhandler
    exact ⟨⟨rfl, rfl, InputSchema.ofStored_fst _ _, rfl, hname, rfl⟩, rfl⟩
  · rintro ⟨⟨hname, hdescription, hschema, houtput, hhandler, hcode⟩, rfl⟩
    refine ⟨t.handler, Handler.parse_eq_ok_iff.2 hhandler, ?_⟩
    rw [← InputSchema.ofStored_fst r.name] at hschema
    obtain ⟨name, description, schema, output, handler, code⟩ := t
    cases hname
    cases hdescription
    cases hschema
    cases houtput
    cases hcode
    rfl

theorem toTool_of_supported (h : r.Supported) :
    ∃ t, r.toTool = .ok (t, (InputSchema.ofStored r.name r.inputSchema).2) ∧ r.StandsFor t := by
  have hname : ∃ handler : Handler, handler.name = r.handlerType := by
    rcases h with h | h
    · exact ⟨.static, h.symm⟩
    · exact ⟨.api, h.symm⟩
  obtain ⟨handler, hhandler⟩ := hname
  have hstands : r.StandsFor ⟨r.name, r.description, .ofDocument? (storedDocument? r.inputSchema),
      r.outputSchema, handler, r.handlerCode⟩ := ⟨rfl, rfl, rfl, rfl, hhandler, rfl⟩
  exact ⟨_, toTool_eq_ok_iff.2 ⟨hstands, rfl⟩, hstands⟩

theorem toTool_of_not_supported (h : ¬r.Supported) :
    r.toTool = .error ⟨r.name, r.handlerType⟩ := by
  have hname : Handler.ofName? r.handlerType = none := by
    rw [Option.eq_none_iff_forall_ne_some]
    intro handler hhandler
    rw [Handler.ofName?_eq_some_iff] at hhandler
    rw [Supported, ← hhandler] at h
    cases handler
    · exact h (.inl rfl)
    · exact h (.inr rfl)
  rw [toTool, Handler.parse, hname]
  rfl

/-- The input schema of the record cannot be used. -/
def IsSetAside (r : ToolRecord) : Prop :=
  ∃ warning, InputSchema.SetAside r.name r.inputSchema warning

theorem isSome_ofStored_snd_iff :
    (InputSchema.ofStored r.name r.inputSchema).2.isSome = true ↔ r.IsSetAside := by
  rw [Option.isSome_iff_exists]
  exact exists_congr fun warning => InputSchema.ofStored_snd_eq_some_iff

instance : DecidablePred IsSetAside := fun _ => decidable_of_iff _ isSome_ofStored_snd_iff

/-! ## All tools -/

/-- One warning for each of the records whose schema cannot be used, in order. -/
def Warned (records : List ToolRecord) (warnings : List SchemaWarning) : Prop :=
  List.Forall₂ (fun r warning => InputSchema.SetAside r.name r.inputSchema warning)
    (records.filter fun r => r.IsSetAside) warnings

/-- How turning records into a value made of their tools may end: with the value, or at the first
that asks for a handler that does not exist. -/
inductive Converts {α : Type} (records : List ToolRecord) (make : List Tool → α) :
    Except UnsupportedHandler α × List SchemaWarning → Prop
  | done {tools : List Tool} {warnings : List SchemaWarning}
    (htools : List.Forall₂ StandsFor records tools) (hwarned : Warned records warnings) :
    Converts records make (.ok (make tools), warnings)
  | failed {front back : List ToolRecord} {r : ToolRecord} {warnings : List SchemaWarning}
    (hrecords : records = front ++ r :: back) (hfront : ∀ s ∈ front, s.Supported)
    (hr : ¬r.Supported) (hwarned : Warned front warnings) :
    Converts records make (.error ⟨r.name, r.handlerType⟩, warnings)

variable {rest : List ToolRecord} {warnings : List SchemaWarning}

theorem Warned.cons (r : ToolRecord) (h : Warned rest warnings) :
    Warned (r :: rest) ((InputSchema.ofStored r.name r.inputSchema).2.toList ++ warnings) := by
  unfold Warned
  cases hwarning : (InputSchema.ofStored r.name r.inputSchema).2 with
  | none =>
    have hr : ¬r.IsSetAside := by
      rw [← isSome_ofStored_snd_iff, hwarning]
      exact Bool.false_ne_true
    rw [List.filter_cons_of_neg (by simpa using hr)]
    exact h
  | some warning =>
    have hset := InputSchema.ofStored_snd_eq_some_iff.1 hwarning
    have hr : r.IsSetAside := ⟨warning, hset⟩
    rw [List.filter_cons_of_pos (by simpa using hr)]
    exact .cons hset h

theorem Converts.cons {α : Type} {make : List Tool → α} {result : Except UnsupportedHandler α}
    (hr : r.StandsFor t) (h : Converts rest (fun tools => make (t :: tools)) (result, warnings)) :
    Converts (r :: rest) make
      (result, (InputSchema.ofStored r.name r.inputSchema).2.toList ++ warnings) := by
  cases h with
  | done htools hwarned => exact .done (.cons hr htools) (hwarned.cons r)
  | failed hrecords hfront hr' hwarned =>
    refine .failed (congrArg (r :: ·) hrecords) ?_ hr' (hwarned.cons r)
    rw [List.forall_mem_cons]
    exact ⟨hr.supported, hfront⟩

theorem toTools_cons {warning : Option SchemaWarning} (h : r.toTool = .ok (t, warning)) :
    toTools (r :: rest) = ((toTools rest).1.map (t :: ·), warning.toList ++ (toTools rest).2) := by
  rw [toTools, h]

/-- **The tools of records**, whatever is made of them. -/
theorem converts_toTools {α : Type} (records : List ToolRecord) (make : List Tool → α) :
    Converts records make ((toTools records).1.map make, (toTools records).2) := by
  -- along the records; the tools that are there already go into what is made of the others
  induction records generalizing make with
  | nil => exact .done .nil .nil
  | cons r rest ih =>
    by_cases hr : r.Supported
    · obtain ⟨t, htool, hstands⟩ := toTool_of_supported hr
      have hmap : ((toTools rest).1.map (t :: ·)).map make =
          (toTools rest).1.map fun tools => make (t :: tools) := by
        cases (toTools rest).1 <;> rfl
      rw [toTools_cons htool, hmap]
      exact (ih _).cons hstands
    · rw [toTools, toTool_of_not_supported hr]
      exact .failed (List.nil_append _).symm (List.forall_mem_nil _) hr .nil

theorem Converts.exists_ok_iff {α : Type} {records : List ToolRecord} {make : List Tool → α}
    {result : Except UnsupportedHandler α} (h : Converts records make (result, warnings)) :
    (∃ a, result = .ok a) ↔ ∀ r ∈ records, r.Supported := by
  cases h with
  | done htools hwarned =>
    refine iff_of_true ⟨_, rfl⟩ ?_
    clear hwarned
    induction htools with
    | nil => exact List.forall_mem_nil _
    | cons hr _ ih => exact List.forall_mem_cons.2 ⟨hr.supported, ih⟩
  | @failed front back r warnings hrecords hfront hr hwarned =>
    refine iff_of_false (by simp) fun hall => hr (hall r ?_)
    rw [hrecords]
    exact List.mem_append_right front List.mem_cons_self

end ToolRecord

/-! ## Projects -/

/-- The note that is made of a warning. -/
def SchemaWarning.note (warning : SchemaWarning) : Note := ⟨.warn, .record, warning.message⟩

/-- Converting a record on a machine notes the warnings, and after them nothing but details. -/
theorem Source.on_convert (r : ProjectRecord) (w : World) :
    ∃ details : List Note, (∀ n ∈ details, n.level = .debug) ∧
      (Source.convert World.host r).on w = (r.toProject.1.mapError .unsupportedHandler,
        w.after w.tree (r.toProject.2.map SchemaWarning.note ++ details)) := by
  unfold Source.convert
  dsimp only
  rw [Action.on_bind_of_ok (Action.on_sayAll _ _ _ w), List.map_map]
  cases r.toProject.1 with
  | error e => exact ⟨[], List.forall_mem_nil _, by rw [List.append_nil]; rfl⟩
  | ok p =>
    let detail := "Converted project " ++ quotedName p.name ++ " with " ++
      String.ofList (natChars p.tools.length) ++ " tool(s)"
    refine ⟨[⟨.debug, .record, detail⟩], List.forall_mem_singleton.2 rfl, ?_⟩
    dsimp only
    rw [Action.on_bind_of_ok (Action.on_say _ _ _ _), World.after_after]
    rfl

/-- **Converting a record** stops at the first tool whose handler does not exist, and at nothing
else; the warnings that are noted are those about the schemas that were set aside before. -/
theorem ProjectRecord.converts_toProject (r : ProjectRecord) :
    ToolRecord.Converts r.tools (Project.mk r.name) r.toProject ∧
      ((∃ p, r.toProject.1 = .ok p) ↔ ∀ tool ∈ r.tools, tool.Supported) ∧
      ∀ w : World, ∃ details : List Note, (∀ n ∈ details, n.level = .debug) ∧
        (Source.convert World.host r).on w = (r.toProject.1.mapError .unsupportedHandler,
          w.after w.tree (r.toProject.2.map SchemaWarning.note ++ details)) := by
  have hconverts : ToolRecord.Converts r.tools (Project.mk r.name) r.toProject :=
    ToolRecord.converts_toTools r.tools (Project.mk r.name)
  exact ⟨hconverts, hconverts.exists_ok_iff, Source.on_convert r⟩

end ToolScaffold
