import ToolScaffold.Proofs.Tool.ReadBack
import ToolScaffold.Tool.InputSchema

/-!
# Schemas are read entry by entry

Nothing is lost of an object that is read as a property: written again it has the same fields, of
which a type and a description that are texts come first (`members_ofFields`). And what is wrong
with one entry of a schema stays there: another value for a property changes that property and no
other (`propertyReplaced`), and something else in the place of a required name takes that name away
and nothing else (`nameLeftOut`). `reads_entrywise` puts the three together.
-/

namespace ToolScaffold

open Json

/-! ## Properties -/

namespace Property

/-- The field holds a text under the key. -/
def isTextAt (key : String) (field : String × Json) : Bool :=
  field.1 = key && field.2.text?.isSome

/-- The fields in the order in which a property is written: a type that is a text, a description
that is a text, and the others as they stand. -/
def reordered (fields : Fields) : Fields :=
  fields.filter (isTextAt "type") ++ (fields.filter (isTextAt "description") ++
    fields.filter fun field => !isTextAt "type" field && !isTextAt "description" field)

/-- A description that is a text is no type. -/
theorem filter_description (fields : Fields) :
    (fields.filter fun field => !isTextAt "type" field).filter (isTextAt "description") =
      fields.filter (isTextAt "description") := by
  rw [List.filter_filter]
  refine List.filter_congr fun field _ => ?_
  by_cases hkey : field.1 = "description"
  · simp [isTextAt, hkey]
  · simp [isTextAt, hkey]

theorem filter_others (fields : Fields) :
    (fields.filter fun field => !isTextAt "type" field).filter
        (fun field => !isTextAt "description" field) =
      fields.filter fun field => !isTextAt "type" field && !isTextAt "description" field := by
  rw [List.filter_filter]
  exact List.filter_congr fun field _ => Bool.and_comm _ _

/-- These are exactly the fields. -/
theorem reordered_perm (fields : Fields) : (reordered fields).Perm fields := by
  have hothers := List.filter_append_perm (isTextAt "description")
    (fields.filter fun field => !isTextAt "type" field)
  rw [filter_description, filter_others] at hothers
  exact (hothers.append_left _).trans (List.filter_append_perm (isTextAt "type") fields)

section Filter

variable {fields : Fields} {key : String}

theorem isTextAt_of_ne {field : String × Json} (h : field.1 ≠ key) :
    isTextAt key field = false := by
  simp [isTextAt, h]

theorem filter_isTextAt_of_not_mem (h : key ∉ Entries.keys fields) :
    fields.filter (isTextAt key) = [] := by
  rw [List.filter_eq_nil_iff]
  intro field hfield
  rw [isTextAt_of_ne]
  · exact Bool.false_ne_true
  · rintro rfl
    exact h (List.mem_map_of_mem hfield)

theorem filter_not_isTextAt (h : fields.filter (isTextAt key) = []) :
    (fields.filter fun field => !isTextAt key field) = fields := by
  rw [List.filter_eq_self]
  intro field hfield
  rw [Bool.not_eq_true', ← Bool.not_eq_true]
  exact List.filter_eq_nil_iff.1 h field hfield

/-- Setting a text aside parts the fields in two, if no key stands twice. -/
theorem splitText_eq (h : fields.Distinct) (key : String) :
    textField key (splitText fields key).1 = fields.filter (isTextAt key) ∧
      (splitText fields key).2 = fields.filter fun field => !isTextAt key field := by
  unfold splitText
  split
  · next s hget =>
    obtain ⟨front, back, rfl, hfront, hback⟩ := h.exists_split (Entries.mem_of_get?_eq_some hget)
    have htext : isTextAt key (key, .str s) = true := by simp [isTextAt, Json.text?]
    have herase : Entries.erase (front ++ (key, .str s) :: back) key = front ++ back := by
      rw [Entries.erase, List.filter_append, List.filter_cons_of_neg (by simp)]
      exact congr (congrArg _ (Entries.erase_of_not_mem hfront)) (Entries.erase_of_not_mem hback)
    have hnone := filter_isTextAt_of_not_mem hfront
    have hnone' := filter_isTextAt_of_not_mem hback
    constructor
    · rw [List.filter_append, List.filter_cons_of_pos htext, hnone, hnone']
      rfl
    · rw [herase, List.filter_append, List.filter_cons_of_neg (by simp [htext]),
        filter_not_isTextAt hnone, filter_not_isTextAt hnone']
  · next hne =>
    have hnone : fields.filter (isTextAt key) = [] := by
      rw [List.filter_eq_nil_iff]
      rintro ⟨name, v⟩ hfield htext
      simp only [isTextAt, Bool.and_eq_true, decide_eq_true_eq] at htext
      obtain ⟨rfl, htext⟩ := htext
      cases v with
      | str s => exact hne s (h.get?_of_mem hfield)
      | _ => cases htext
    exact ⟨hnone.symm, (filter_not_isTextAt hnone).symm⟩

end Filter

section OfFields

variable {fields : Fields} (h : fields.Distinct)

include h in
/-- **Nothing is lost** of the fields of an object. -/
theorem members_ofFields : (ofFields fields).members = reordered fields := by
  obtain ⟨htype, hrest⟩ := splitText_eq h "type"
  have hdistinct : (splitText fields "type").2.Distinct :=
    (split_splitText fields "type").distinct h
  obtain ⟨hdescription, hextra⟩ := splitText_eq hdistinct "description"
  have hname : (ofFields fields).type.map TypeTag.name = (splitText fields "type").1 := by
    change ((splitText fields "type").1.map TypeTag.ofName).map TypeTag.name = _
    cases (splitText fields "type").1 with
    | none => rfl
    | some name => exact congrArg some (name_ofName name)
  rw [members_eq, hname, htype, reordered, ← filter_description, ← filter_others, ← hrest,
    ← hdescription, ← hextra]
  rfl

include h in
theorem toJson_ofFields : (ofFields fields).toJson = .obj (reordered fields) := by
  have hdistinct : (reordered fields).Distinct :=
    ((reordered_perm fields).map Prod.fst).nodup_iff.2 h
  rw [toJson, members_ofFields h, Entries.ofList, Entries.foldl_insert hdistinct]

end OfFields

end Property

/-! ## Schemas -/

namespace InputSchema

/-- The second schema is the first one but for one property, which stands in the same place. -/
structure PropertyReplaced (place : Nat) (name : String) (p q : Property) (s s' : InputSchema) :
    Prop where
  properties_eq : ∃ front back, front.length = place ∧
    s.properties = front ++ (name, p) :: back ∧ s'.properties = front ++ (name, q) :: back
  names_eq : s'.names = s.names
  required_eq : s'.required = s.required

/-- The second schema is the first one but for one required name, which is left out. -/
structure NameLeftOut (place : Nat) (name : String) (s s' : InputSchema) : Prop where
  required_eq : ∃ front back, front.length = place ∧
    s.required = front ++ name :: back ∧ s'.required = front ++ back
  properties_eq : s'.properties = s.properties

variable {document : Fields}

theorem propertiesOf_of_get? {entries : Fields}
    (h : Entries.get? document "properties" = some (.obj entries)) :
    propertiesOf document = readProperties entries := by
  rw [propertiesOf, h]

/-- The place at which a property of that name is read. -/
def placeOf (name : String) (entries : Fields) : Nat :=
  (Entries.keys (Entries.firsts entries)).idxOf name

/-- **Another value for a property** changes this property and no other. -/
theorem propertyReplaced {entries : Fields} {name : String} {old : Json}
    (hget : Entries.get? document "properties" = some (.obj entries))
    (hold : Entries.get? entries name = some old) (v : Json) :
    PropertyReplaced (placeOf name entries) name (.ofJson old) (.ofJson v) (ofDocument document)
      (ofDocument (Entries.insert "properties" (.obj (Entries.insert name v entries))
        document)) := by
  obtain ⟨front, back, hsplit, hfront, hinsert⟩ := Entries.exists_split_firsts hold v
  have hplace : placeOf name entries = front.length := by
    rw [Entries.keys] at hfront
    rw [placeOf, hsplit, Entries.keys, List.map_append, List.map_cons,
      List.idxOf_append_of_notMem hfront, List.idxOf_cons_self, List.length_map, Nat.add_zero]
  have hread : propertiesOf document = _ := propertiesOf_of_get? hget
  have hread' : propertiesOf (Entries.insert "properties" (.obj (Entries.insert name v entries))
      document) = _ := propertiesOf_of_get? Entries.get?_insert_self
  rw [readProperties, hsplit] at hread
  rw [readProperties, hinsert] at hread'
  constructor
  case properties_eq =>
    refine ⟨front.map fun entry => (entry.1, Property.ofJson entry.2),
      back.map fun entry => (entry.1, Property.ofJson entry.2), ?_, ?_, ?_⟩
    · rw [hplace, List.length_map]
    · rw [properties_ofDocument, hread, List.map_append, List.map_cons]
    · rw [properties_ofDocument, hread', List.map_append, List.map_cons]
  case names_eq =>
    rw [names, names, properties_ofDocument, properties_ofDocument, hread, hread']
    simp [Entries.keys]
  case required_eq =>
    rw [required_ofDocument, required_ofDocument, requiredOf, requiredOf,
      Entries.get?_insert_of_ne (by decide)]

/-- **Something else in the place of a required name** takes the name away and nothing else. -/
theorem nameLeftOut {front back : List Json} {name : String}
    (h : Entries.get? document "required" = some (.arr (front ++ .str name :: back))) {v : Json}
    (hv : ∀ s, v ≠ .str s) :
    NameLeftOut (front.filterMap Json.text?).length name (ofDocument document)
      (ofDocument (Entries.insert "required" (.arr (front ++ v :: back)) document)) where
  required_eq := by
    have hnone : v.text? = none := by
      cases v with
      | str s => exact absurd rfl (hv s)
      | _ => rfl
    refine ⟨front.filterMap Json.text?, back.filterMap Json.text?, rfl, ?_, ?_⟩
    · rw [ofDocument, requiredOf, h]
      exact List.filterMap_append
    · rw [ofDocument, requiredOf, Entries.get?_insert_self]
      exact List.filterMap_append.trans (congrArg _ (List.filterMap_cons_none hnone))
  properties_eq := by
    rw [properties_ofDocument, properties_ofDocument, propertiesOf, propertiesOf,
      Entries.get?_insert_of_ne (by decide)]

/-- **Schemas are read entry by entry.** A property keeps all fields of the object that it was read
out of, with the type and the description in front; another value for a property, or something else
in the place of a required name, changes what is read there and nothing else. -/
theorem reads_entrywise :
    (∀ fields : Fields, fields.Distinct →
      (Property.ofJson (.obj fields)).toJson = .obj (Property.reordered fields) ∧
      (Property.ofJson (.obj fields)).written = .obj (Property.reordered fields) ∧
      (Property.reordered fields).Perm fields) ∧
    (∀ (document entries : Fields) (name : String) (old v : Json),
      Entries.get? document "properties" = some (.obj entries) →
      Entries.get? entries name = some old →
      PropertyReplaced (placeOf name entries) name (.ofJson old) (.ofJson v) (ofDocument document)
        (ofDocument (Entries.insert "properties" (.obj (Entries.insert name v entries))
          document))) ∧
    ∀ (document : Fields) (front back : List Json) (name : String) (v : Json),
      Entries.get? document "required" = some (.arr (front ++ .str name :: back)) →
      (∀ s, v ≠ .str s) →
      NameLeftOut (front.filterMap Json.text?).length name (ofDocument document)
        (ofDocument (Entries.insert "required" (.arr (front ++ v :: back)) document)) := by
  refine ⟨fun fields h => ⟨?_, ?_, Property.reordered_perm fields⟩,
    fun document entries name old v hget hold => propertyReplaced hget hold v,
    fun document front back name v h hv => nameLeftOut h hv⟩
  · exact Property.toJson_ofFields h
  · exact congrArg Json.obj (Property.members_ofFields h)

/-- A property whose type cannot be used and whose description comes late. -/
def dayFields : Fields :=
  [("type", .arr [.str "string", .null]), ("format", .str "date"), ("description", .str "Day")]

def tripProperties (day : Json) : Fields := [("city", .obj [("type", .str "string")]), ("day", day)]

/-- A schema that requires something that is no name, and both of its properties. -/
def tripDocument : Fields :=
  [("properties", .obj (tripProperties (.obj dayFields))),
    ("required", .arr [.str "city", .num (.int 3), .str "day"])]

theorem reads_entrywise_trip :
    dayFields.Distinct ∧
      (Property.ofJson (.obj dayFields)).written = .obj [("description", .str "Day"),
        ("type", .arr [.str "string", .null]), ("format", .str "date")] ∧
      PropertyReplaced 1 "day" (.ofJson (.obj dayFields)) (.ofJson (.bool true))
        (ofDocument tripDocument)
        (ofDocument (Entries.insert "properties" (.obj (tripProperties (.bool true)))
          tripDocument)) ∧
      NameLeftOut 1 "day" (ofDocument tripDocument)
        (ofDocument (Entries.insert "required" (.arr [.str "city", .num (.int 3), .null])
          tripDocument)) := by
  obtain ⟨hproperty, hreplaced, hleftOut⟩ := reads_entrywise
  have hdistinct : dayFields.Distinct := by decide
  have hplace : placeOf "day" (tripProperties (.obj dayFields)) = 1 := rfl
  refine ⟨hdistinct, (hproperty dayFields hdistinct).2.1.trans rfl, ?_, ?_⟩
  · rw [← hplace]
    exact hreplaced tripDocument (tripProperties (.obj dayFields)) "day" (.obj dayFields)
      (.bool true) rfl rfl
  · exact hleftOut tripDocument [.str "city", .num (.int 3)] [] "day" .null rfl nofun

end InputSchema

end ToolScaffold
