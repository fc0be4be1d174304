import Mathlib.Tactic.ByContra
import Mathlib.Tactic.Push
import ToolScaffold.Proofs.Entries
import ToolScaffold.Tool.InputSchema

/-!
# Schemas in step with their documents

A schema is in sync if it is what its document declares. Declaring a property changes the schema,
and the document as far as it can. `inSync_withProperty`: the two stay in sync exactly if the
document has room for the change, that is, if its properties are no value other than an object and,
should a name have to be added, its required names no value other than a list. Only the property and
the name then change. A schema that is built from the empty one always has that room.

The two parts of a document are looked at one by one: declaring a property leaves the required names
as they are (`get?_required_declareIn`), and requiring a name leaves the properties
(`get?_properties_requireIn`).
-/

namespace ToolScaffold

/-- The property, written as a value, is read as itself. -/
def Property.ReadsBack (p : Property) : Prop := Property.ofJson p.toJson = p

namespace InputSchema

/-- The schema is what its document declares. -/
def InSync (s : InputSchema) : Prop := s = .ofDocument s.document

/-- The properties of the document are an object, or it has none. -/
def Declarable (document : Json.Fields) : Prop :=
  ∀ v, Entries.get? document "properties" = some v → ∃ entries, v = .obj entries

/-- The required names of the document are a list, or it has none. -/
def Requirable (document : Json.Fields) : Prop :=
  ∀ v, Entries.get? document "required" = some v → ∃ names, v = .arr names

/-- The document of the schema has room for a property of that name. -/
structure HasRoom (s : InputSchema) (name : String) (required : Bool) : Prop where
  declarable : Declarable s.document
  requirable : required = false ∨ name ∈ s.required ∨ Requirable s.document

/-- The second schema is the first one with the property declared, in its place if the name was
declared and last otherwise, and with the name required, last, if it has to be and was not. -/
structure Gains (s : InputSchema) (name : String) (p : Property) (required : Bool)
    (s' : InputSchema) : Prop where
  properties_eq_of_mem : name ∈ s.names → ∃ front old back,
    s.properties = front ++ (name, old) :: back ∧ name ∉ Entries.keys front ∧
      s'.properties = front ++ (name, p) :: back
  properties_eq_of_not_mem : name ∉ s.names → s'.properties = s.properties ++ [(name, p)]
  required_eq : s'.required =
    if required = true ∧ name ∉ s.required then s.required ++ [name] else s.required

/-- One declaration of a property. -/
structure Declaration where
  name : String
  property : Property
  required : Bool

/-- The schema with properties declared one after the other. -/
def extended (s : InputSchema) (declarations : List Declaration) : InputSchema :=
  declarations.foldl (fun s d => s.withProperty d.name d.property d.required) s

variable {document : Json.Fields} (name : String) {p : Property}

/-! ## Declaring a property in a document -/

theorem get?_required_declareIn (p : Property) :
    Entries.get? (declareIn document name p) "required" = Entries.get? document "required" := by
  unfold declareIn
  split
  · exact Entries.get?_insert_of_ne (by decide)
  · rfl

theorem requiredOf_declareIn (p : Property) :
    requiredOf (declareIn document name p) = requiredOf document := by
  rw [requiredOf, get?_required_declareIn, requiredOf]

theorem requirable_declareIn (p : Property) :
    Requirable (declareIn document name p) ↔ Requirable document := by
  rw [Requirable, get?_required_declareIn, Requirable]

theorem declareIn_of_declarable (p : Property) (h : Declarable document) :
    ∃ entries, propertiesOf document = readProperties entries ∧
      declareIn document name p =
        Entries.insert "properties" (.obj (Entries.insert name p.toJson entries)) document := by
  unfold declareIn propertiesOf
  cases hget : Entries.get? document "properties" with
  | none => exact ⟨[], rfl, rfl⟩
  | some v =>
    obtain ⟨entries, rfl⟩ := h v hget
    exact ⟨entries, rfl, rfl⟩

/-- A document that has no room for properties is left as it is. -/
theorem declareIn_of_not_declarable (p : Property) (h : ¬Declarable document) :
    propertiesOf document = [] ∧ declareIn document name p = document := by
  unfold Declarable at h
  push Not at h
  obtain ⟨v, hget, hv⟩ := h
  unfold declareIn propertiesOf
  rw [hget]
  cases v with
  | obj entries => exact absurd rfl (hv entries)
  | _ => exact ⟨rfl, rfl⟩

theorem propertiesOf_declareIn_iff (hp : p.ReadsBack) :
    propertiesOf (declareIn document name p) = Entries.insert name p (propertiesOf document) ↔
      Declarable document := by
  constructor
  · intro heq
    by_contra h
    obtain ⟨hnil, hdocument⟩ := declareIn_of_not_declarable name p h
    rw [hdocument, hnil] at heq
    exact Entries.insert_ne_nil heq.symm
  · intro h
    obtain ⟨entries, hproperties, hdocument⟩ := declareIn_of_declarable name p h
    have hread : propertiesOf (declareIn document name p) =
        readProperties (Entries.insert name p.toJson entries) := by
      rw [hdocument, propertiesOf, Entries.get?_insert_self]
    rw [hread, hproperties, readProperties, readProperties, Entries.firsts_insert,
      ← Entries.insert_map, hp]

theorem declarable_declareIn (p : Property) (h : Declarable document) :
    Declarable (declareIn document name p) := by
  obtain ⟨entries, -, hdocument⟩ := declareIn_of_declarable name p h
  intro v hv
  rw [hdocument, Entries.get?_insert_self] at hv
  exact ⟨_, (Option.some.inj hv).symm⟩

/-! ## Requiring a name in a document -/

theorem get?_properties_requireIn :
    Entries.get? (requireIn document name) "properties" = Entries.get? document "properties" := by
  unfold requireIn
  split
  · exact Entries.get?_insert_of_ne (by decide)
  · rfl

theorem propertiesOf_requireIn :
    propertiesOf (requireIn document name) = propertiesOf document := by
  rw [propertiesOf, get?_properties_requireIn, propertiesOf]

theorem declarable_requireIn : Declarable (requireIn document name) ↔ Declarable document := by
  rw [Declarable, get?_properties_requireIn, Declarable]

theorem requireIn_of_requirable (h : Requirable document) :
    ∃ names, requiredOf document = names.filterMap Json.text? ∧
      requireIn document name =
        Entries.insert "required" (.arr (names ++ [.str name])) document := by
  unfold requireIn requiredOf
  cases hget : Entries.get? document "required" with
  | none => exact ⟨[], rfl, rfl⟩
  | some v =>
    obtain ⟨names, rfl⟩ := h v hget
    exact ⟨names, rfl, rfl⟩

/-- A document that has no room for required names is left as it is. -/
theorem requireIn_of_not_requirable (h : ¬Requirable document) :
    requiredOf document = [] ∧ requireIn document name = document := by
  unfold Requirable at h
  push Not at h
  obtain ⟨v, hget, hv⟩ := h
  unfold requireIn requiredOf
  rw [hget]
  cases v with
  | arr names => exact absurd rfl (hv names)
  | _ => exact ⟨rfl, rfl⟩

theorem requiredOf_requireIn_iff :
    requiredOf (requireIn document name) = requiredOf document ++ [name] ↔
      Requirable document := by
  constructor
  · intro heq
    by_contra h
    obtain ⟨hnil, hdocument⟩ := requireIn_of_not_requirable name h
    rw [hdocument, hnil] at heq
    cases heq
  · intro h
    obtain ⟨names, hrequired, hdocument⟩ := requireIn_of_requirable name h
    have hread : requiredOf (requireIn document name) =
        (names ++ [Json.str name]).filterMap Json.text? := by
      rw [hdocument, requiredOf, Entries.get?_insert_self]
    rw [hread, hrequired, List.filterMap_append]
    rfl

theorem requirable_requireIn (h : Requirable document) :
    Requirable (requireIn document name) := by
  obtain ⟨names, -, hdocument⟩ := requireIn_of_requirable name h
  intro v hv
  rw [hdocument, Entries.get?_insert_self] at hv
  exact ⟨_, (Option.some.inj hv).symm⟩

/-! ## One declaration -/

section Step

variable (s : InputSchema) (name : String) (p : Property) (required : Bool)

theorem inSync_iff : s.InSync ↔
    s.properties = propertiesOf s.document ∧ s.required = requiredOf s.document := by
  obtain ⟨properties, names, document⟩ := s
  simp [InSync, ofDocument]

theorem isRequired_eq_false_iff : s.isRequired name = false ↔ name ∉ s.required := by
  rw [isRequired, ← Bool.not_eq_true, List.contains_iff_mem]

/-- The declaration adds the name to the required ones. -/
def Adds : Prop := required = true ∧ name ∉ s.required

theorem withProperty_of_adds (h : s.Adds name required) : s.withProperty name p required =
    ⟨Entries.insert name p s.properties, s.required ++ [name],
      requireIn (declareIn s.document name p) name, s.distinct.insert⟩ := by
  have hcondition : (required && !s.isRequired name) = true := by
    rw [h.1, (s.isRequired_eq_false_iff name).2 h.2]
    rfl
  rw [withProperty, if_pos hcondition]

theorem withProperty_of_not_adds (h : ¬s.Adds name required) : s.withProperty name p required =
    ⟨Entries.insert name p s.properties, s.required, declareIn s.document name p,
      s.distinct.insert⟩ := by
  have hcondition : ¬(required && !s.isRequired name) = true := by
    intro heq
    rw [Bool.and_eq_true, Bool.not_eq_true', isRequired_eq_false_iff] at heq
    exact h heq
  rw [withProperty, if_neg hcondition]

/-- What a declaration changes in a schema, whatever becomes of the document. -/
theorem gains_withProperty : s.Gains name p required (s.withProperty name p required) := by
  have hproperties :
      (s.withProperty name p required).properties = Entries.insert name p s.properties := by
    unfold withProperty
    dsimp only
    split <;> rfl
  refine ⟨?_, ?_, ?_⟩
  · intro hmem
    obtain ⟨front, old, back, hsplit, hfront, hinsert⟩ := Entries.insert_of_mem p hmem
    exact ⟨front, old, back, hsplit, hfront, hproperties.trans hinsert⟩
  · intro hmem
    rw [hproperties, Entries.insert_of_not_mem hmem]
  · by_cases h : s.Adds name required
    · rw [withProperty_of_adds s name p required h]
      exact (if_pos h).symm
    · rw [withProperty_of_not_adds s name p required h]
      exact (if_neg h).symm

theorem hasRoom_iff : s.HasRoom name required ↔
    Declarable s.document ∧ (s.Adds name required → Requirable s.document) := by
  have hcases : (required = false ∨ name ∈ s.required ∨ Requirable s.document) ↔
      (s.Adds name required → Requirable s.document) := by
    unfold Adds
    cases required <;> simp [Decidable.imp_iff_not_or]
  rw [← hcases]
  exact ⟨fun h => ⟨h.declarable, h.requirable⟩, fun h => ⟨h.1, h.2⟩⟩

variable {s p}

/-- **One step**: a schema stays in sync exactly if its document has room. -/
theorem inSync_withProperty_iff_hasRoom (hs : s.InSync) (hp : p.ReadsBack) :
    (s.withProperty name p required).InSync ↔ s.HasRoom name required := by
  obtain ⟨hproperties, hrequired⟩ := s.inSync_iff.1 hs
  rw [hasRoom_iff, inSync_iff]
  by_cases h : s.Adds name required
  · rw [withProperty_of_adds s name p required h]
    dsimp only
    have hnames := @requiredOf_requireIn_iff (declareIn s.document name p) name
    rw [requiredOf_declareIn, requirable_declareIn] at hnames
    rw [propertiesOf_requireIn, hproperties, hrequired, eq_comm, propertiesOf_declareIn_iff name hp,
      eq_comm, hnames]
    simp only [h, true_implies]
  · rw [withProperty_of_not_adds s name p required h]
    dsimp only
    rw [hproperties, hrequired, eq_comm, propertiesOf_declareIn_iff name hp, requiredOf_declareIn]
    simp only [h, false_implies, and_true]

end Step

/-! ## Many declarations -/

/-- The schema is in sync, and its document has room for every declaration. -/
structure Growing (s : InputSchema) : Prop where
  inSync : s.InSync
  declarable : Declarable s.document
  requirable : Requirable s.document

theorem growing_empty : empty.Growing where
  inSync := rfl
  declarable v hv := by cases hv
  requirable v hv := by cases hv

theorem Growing.withProperty {s : InputSchema} (h : s.Growing) (name : String) {p : Property}
    (hp : p.ReadsBack) (required : Bool) : (s.withProperty name p required).Growing := by
  have hroom : s.HasRoom name required := ⟨h.declarable, .inr (.inr h.requirable)⟩
  have hsync := (inSync_withProperty_iff_hasRoom name required h.inSync hp).2 hroom
  have hdeclarable : Declarable (declareIn s.document name p) :=
    declarable_declareIn name p h.declarable
  have hrequirable : Requirable (declareIn s.document name p) :=
    (requirable_declareIn name p).2 h.requirable
  by_cases hadds : s.Adds name required
  · rw [withProperty_of_adds s name p required hadds] at hsync ⊢
    exact ⟨hsync, (declarable_requireIn name).2 hdeclarable, requirable_requireIn name hrequirable⟩
  · rw [withProperty_of_not_adds s name p required hadds] at hsync ⊢
    exact ⟨hsync, hdeclarable, hrequirable⟩

/-- **Any number of steps**: a document that has room for declarations keeps it. -/
theorem Growing.extended {s : InputSchema} (h : s.Growing) {declarations : List Declaration}
    (hreads : ∀ d ∈ declarations, d.property.ReadsBack) : (s.extended declarations).Growing := by
  induction declarations generalizing s with
  | nil => exact h
  | cons d rest ih =>
    have hstep := h.withProperty d.name (hreads d List.mem_cons_self) d.required
    exact ih hstep fun e he => hreads e (List.mem_cons_of_mem d he)

/-! ## Schemas and documents -/

/-- **A schema and its document stay in sync** through a declaration exactly if the document has
room for it; the schema gains the property and nothing else. What is built from the empty schema is
in sync after any number of declarations. -/
theorem inSync_withProperty :
    (∀ {s : InputSchema} {p : Property} (name : String) (required : Bool), s.InSync → p.ReadsBack →
      ((s.withProperty name p required).InSync ↔ s.HasRoom name required) ∧
        s.Gains name p required (s.withProperty name p required)) ∧
    ∀ declarations : List Declaration, (∀ d ∈ declarations, d.property.ReadsBack) →
      (empty.extended declarations).InSync := by
  constructor
  · intro s p name required hs hp
    exact ⟨inSync_withProperty_iff_hasRoom name required hs hp,
      s.gains_withProperty name p required⟩
  · intro declarations hreads
    exact (growing_empty.extended hreads).inSync

/-- A document in which one required name is no name. -/
def pagedDocument : Json.Fields :=
  [("required", .arr [.str "page", .null]), ("properties", .obj [("page", .obj [])])]

/-- A document whose properties cannot be used. -/
def closedDocument : Json.Fields := [("properties", .null)]

/-- A property with all that a property can have. -/
def sizeProperty : Property := ⟨some .integer, some "Items", [("minimum", .num (.int 1))]⟩

theorem inSync_withProperty_size :
    sizeProperty.ReadsBack ∧ (ofDocument pagedDocument).InSync ∧
      (ofDocument closedDocument).InSync ∧
      ((ofDocument pagedDocument).withProperty "size" sizeProperty true).InSync ∧
      ¬((ofDocument closedDocument).withProperty "size" sizeProperty true).InSync ∧
      (empty.extended [⟨"size", sizeProperty, true⟩, ⟨"size", sizeProperty, false⟩]).InSync := by
  have hp : sizeProperty.ReadsBack := rfl
  have hpaged : (ofDocument pagedDocument).InSync := rfl
  have hclosed : (ofDocument closedDocument).InSync := rfl
  have hroom : (ofDocument pagedDocument).HasRoom "size" true := by
    refine ⟨fun v hv => ?_, .inr (.inr fun v hv => ?_)⟩
    · cases hv
      exact ⟨_, rfl⟩
    · cases hv
      exact ⟨_, rfl⟩
  have hfull : ¬(ofDocument closedDocument).HasRoom "size" true := by
    intro h
    obtain ⟨entries, hentries⟩ := h.declarable .null rfl
    cases hentries
  refine ⟨hp, hpaged, hclosed, ?_, ?_, ?_⟩
  · exact (inSync_withProperty.1 "size" true hpaged hp).1.2 hroom
  · exact fun h => hfull ((inSync_withProperty.1 "size" true hclosed hp).1.1 h)
  · refine inSync_withProperty.2 _ fun d hd => ?_
    simp only [List.mem_cons, List.not_mem_nil, or_false] at hd
    rcases hd with rfl | rfl <;> exact hp

end InputSchema

end ToolScaffold
