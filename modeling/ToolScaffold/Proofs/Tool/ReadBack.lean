import Mathlib.Logic.Basic
import ToolScaffold.Proofs.Json.RoundTrip
import ToolScaffold.Tool.Basic

/-!
# Properties read back

A property is made of a type, or read out of a value; descriptions are then set in it one after the
other. `read_described`: one that was made of a type is read back from the text that it is written
as. One that was read out of a value is read back exactly if it is not `Shadowed`: setting a
description leaves a description that is no text among the fields kept aside, so the text has that
key twice, and the reader takes the other one.

`Separate` is what holds of all these properties, and what reading back needs beside: the fields
kept aside have no key twice, and none of them is one that reading would understand.
-/

namespace ToolScaffold

open Json

/-- The description of the value, if it has one, is a text. -/
def Json.DescribedByText (v : Json) : Prop :=
  ∀ fields w, v = .obj fields → Entries.get? fields "description" = some w → ∃ s, w = .str s

namespace Property

/-- The property with descriptions set one after the other. -/
def described (p : Property) (texts : List String) : Property := texts.foldl withDescription p

/-- The property has a description, and another one was kept aside. -/
def Shadowed (p : Property) : Prop :=
  p.description.isSome = true ∧ "description" ∈ Entries.keys p.extra

/-- The values kept aside nest no deeper than the fields of a document may. -/
def Shallow (p : Property) : Prop := ∀ field ∈ p.extra, Nested (maxDepth - 1) field.2

/-- The fields kept aside have no key twice, and nothing in them would be understood. -/
structure Separate (p : Property) : Prop where
  distinct : p.extra.Distinct
  type_eq : p.type.map (fun tag => TypeTag.ofName tag.name) = p.type
  type_not_mem : p.type.isSome = true → "type" ∉ Entries.keys p.extra
  type_not_text : p.type = none → ∀ s, Entries.get? p.extra "type" ≠ some (.str s)
  description_not_text :
    p.description = none → ∀ s, Entries.get? p.extra "description" ≠ some (.str s)

/-! ## Setting a text aside -/

/-- What setting a text aside makes of fields: the text, if there is one, and the other fields. -/
structure Split (fields : Fields) (key : String) (text : Option String) (rest : Fields) : Prop where
  mem : ∀ field ∈ rest, field ∈ fields
  distinct : fields.Distinct → rest.Distinct
  get?_of_ne : ∀ other, other ≠ key → Entries.get? rest other = Entries.get? fields other
  get?_eq : ∀ s, text = some s → Entries.get? fields key = some (.str s)
  not_mem : text.isSome = true → key ∉ Entries.keys rest
  rest_eq : text = none → rest = fields
  not_text : text = none → ∀ s, Entries.get? fields key ≠ some (.str s)

theorem split_splitText (fields : Fields) (key : String) :
    Split fields key (splitText fields key).1 (splitText fields key).2 := by
  unfold splitText
  split
  · next s hget =>
    constructor
    case mem => exact fun field hfield => Entries.mem_of_mem_erase hfield
    case distinct => exact fun h => h.erase key
    case get?_of_ne => exact fun other h => Entries.get?_erase_of_ne h
    case get?_eq =>
      intro s' hs
      cases hs
      exact hget
    case not_mem => exact fun _ => Entries.not_mem_keys_erase
    case rest_eq => exact fun h => by cases h
    case not_text => exact fun h => by cases h
  · next hne =>
    constructor
    case mem => exact fun field hfield => hfield
    case distinct => exact fun h => h
    case get?_of_ne => exact fun other _ => rfl
    case get?_eq => exact fun s hs => by cases hs
    case not_mem => exact fun h => by cases h
    case rest_eq => exact fun _ => rfl
    case not_text => exact fun _ s => hne s

/-- A field for a text, if there is one. -/
def textField (key : String) (text : Option String) : Fields :=
  (text.map fun s => (key, Json.str s)).toList

/-- A text written in front of other fields is set aside again. -/
theorem splitText_textField {key : String} {text : Option String} {rest : Fields}
    (hmem : text.isSome = true → key ∉ Entries.keys rest)
    (htext : text = none → ∀ s, Entries.get? rest key ≠ some (.str s)) :
    splitText (textField key text ++ rest) key = (text, rest) := by
  cases text with
  | none =>
    have hrest : textField key none ++ rest = rest := rfl
    rw [hrest, splitText]
    split
    · next s hs => exact absurd hs (htext rfl s)
    · rfl
  | some s =>
    have hcons : textField key (some s) ++ rest = (key, .str s) :: rest := rfl
    have herase : Entries.erase ((key, .str s) :: rest) key = rest := by
      rw [Entries.erase, List.filter_cons_of_neg (by simp)]
      exact Entries.erase_of_not_mem (hmem rfl)
    rw [hcons, splitText, Entries.get?_cons, if_pos rfl]
    dsimp only
    rw [herase]

/-! ## Properties as they are read and built -/

theorem name_ofName (name : String) : (TypeTag.ofName name).name = name := by
  unfold TypeTag.ofName
  cases hfind : TypeTag.known.find? fun tag => tag.name = name with
  | none => rfl
  | some tag =>
    have hname := List.find?_some hfind
    exact of_decide_eq_true hname

theorem ofName_name_map (name : Option String) :
    (name.map TypeTag.ofName).map (fun tag => TypeTag.ofName tag.name) =
      name.map TypeTag.ofName := by
  cases name with
  | none => rfl
  | some name => rw [Option.map_some, Option.map_some, name_ofName]

theorem separate_ofType (name : String) : (ofType (.ofName name)).Separate where
  distinct := List.nodup_nil
  type_eq := ofName_name_map (some name)
  type_not_mem _ := List.not_mem_nil
  type_not_text h := by cases h
  description_not_text _ s h := by cases h

section OfFields

variable {fields : Fields}

/-- A property that was read sets two texts aside, one after the other. -/
theorem exists_split_ofFields (fields : Fields) : ∃ name rest, Split fields "type" name rest ∧
    Split rest "description" (ofFields fields).description (ofFields fields).extra ∧
    (ofFields fields).type = name.map TypeTag.ofName :=
  ⟨_, _, split_splitText fields "type", split_splitText _ "description", rfl⟩

theorem mem_of_mem_extra {field : String × Json} (h : field ∈ (ofFields fields).extra) :
    field ∈ fields := by
  obtain ⟨name, rest, htype, hdescription, -⟩ := exists_split_ofFields fields
  exact htype.mem field (hdescription.mem field h)

theorem separate_ofFields (h : fields.Distinct) : (ofFields fields).Separate := by
  obtain ⟨name, rest, htype, hdescription, hname⟩ := exists_split_ofFields fields
  constructor
  case distinct => exact hdescription.distinct (htype.distinct h)
  case type_eq =>
    rw [hname]
    exact ofName_name_map name
  case type_not_mem =>
    intro hsome hmem
    obtain ⟨field, hfield, hkey⟩ := List.mem_map.1 hmem
    have hrest : "type" ∈ Entries.keys rest :=
      List.mem_map.2 ⟨field, hdescription.mem field hfield, hkey⟩
    rw [hname, Option.isSome_map] at hsome
    exact htype.not_mem hsome hrest
  case type_not_text =>
    intro hnone s hget
    rw [hname, Option.map_eq_none_iff] at hnone
    rw [hdescription.get?_of_ne "type" (by decide), htype.rest_eq hnone] at hget
    exact htype.not_text hnone s hget
  case description_not_text =>
    intro hnone
    rw [hdescription.rest_eq hnone]
    exact hdescription.not_text hnone

theorem not_shadowed_ofFields (fields : Fields) : ¬(ofFields fields).Shadowed := by
  obtain ⟨name, rest, -, hdescription, -⟩ := exists_split_ofFields fields
  rintro ⟨hsome, hmem⟩
  exact hdescription.not_mem hsome hmem

/-- A description is kept aside exactly if it is no text. -/
theorem description_mem_extra_iff : "description" ∈ Entries.keys (ofFields fields).extra ↔
    ∃ w, Entries.get? fields "description" = some w ∧ ∀ s, w ≠ .str s := by
  obtain ⟨name, rest, htype, hdescription, -⟩ := exists_split_ofFields fields
  rw [← htype.get?_of_ne "description" (by decide)]
  constructor
  · intro hmem
    have hnone : (ofFields fields).description = none := by
      rw [← Option.not_isSome_iff_eq_none]
      exact fun hsome => hdescription.not_mem hsome hmem
    rw [hdescription.rest_eq hnone] at hmem
    obtain ⟨w, hw⟩ := Entries.exists_get?_of_mem_keys hmem
    refine ⟨w, hw, ?_⟩
    rintro s rfl
    exact hdescription.not_text hnone s hw
  · rintro ⟨w, hw, hne⟩
    have hnone : (ofFields fields).description = none := by
      rw [Option.eq_none_iff_forall_ne_some]
      intro s hs
      rw [hdescription.get?_eq s hs] at hw
      exact hne s (Option.some.inj hw).symm
    rw [hdescription.rest_eq hnone]
    exact Entries.mem_keys_of_get?_eq_some hw

end OfFields

theorem separate_ofJson {v : Json} (h : v.DistinctKeys) : (ofJson v).Separate := by
  cases v with
  | obj fields => exact separate_ofFields (distinctKeys_obj_iff.1 h).1
  | _ => exact ⟨List.nodup_nil, rfl, nofun, nofun, nofun⟩

theorem not_shadowed_ofJson (v : Json) : ¬(ofJson v).Shadowed := by
  cases v with
  | obj fields => exact not_shadowed_ofFields fields
  | _ =>
    rintro ⟨hsome, -⟩
    cases hsome

/-- What holds of a value and of what stands in it holds of what is kept aside. -/
theorem forall_extra_ofJson {P : Json → Prop} {v : Json}
    (h : ∀ fields, v = .obj fields → ∀ field ∈ fields, P field.2) :
    ∀ field ∈ (ofJson v).extra, P field.2 := by
  intro field hfield
  cases v with
  | obj fields => exact h fields rfl field (mem_of_mem_extra hfield)
  | _ => cases hfield

/-! ## Setting descriptions -/

section Described

variable {p : Property}

@[simp] theorem extra_described (p : Property) (texts : List String) :
    (p.described texts).extra = p.extra := by
  induction texts generalizing p with
  | nil => rfl
  | cons text texts ih => exact ih (p.withDescription text)

theorem Separate.withDescription (h : p.Separate) (text : String) :
    (p.withDescription text).Separate where
  distinct := h.distinct
  type_eq := h.type_eq
  type_not_mem := h.type_not_mem
  type_not_text := h.type_not_text
  description_not_text hnone := by cases hnone

/-- Setting descriptions keeps the fields separate. -/
theorem Separate.described (h : p.Separate) (texts : List String) :
    (p.described texts).Separate := by
  induction texts generalizing p with
  | nil => exact h
  | cons text texts ih => exact ih (h.withDescription text)

theorem description_described_isSome (p : Property) (texts : List String) :
    (p.described texts).description.isSome = true ↔
      p.description.isSome = true ∨ texts ≠ [] := by
  induction texts generalizing p with
  | nil => simp [described]
  | cons text texts ih =>
    rw [described, List.foldl_cons, ← described, ih]
    simp [withDescription]

theorem shadowed_described_iff (h : ¬p.Shadowed) (texts : List String) :
    (p.described texts).Shadowed ↔ texts ≠ [] ∧ "description" ∈ Entries.keys p.extra := by
  rw [Shadowed, extra_described, description_described_isSome]
  constructor
  · rintro ⟨hsome | htexts, hmem⟩
    · exact absurd ⟨hsome, hmem⟩ h
    · exact ⟨htexts, hmem⟩
  · rintro ⟨htexts, hmem⟩
    exact ⟨.inr htexts, hmem⟩

end Described

/-! ## Writing -/

section Written

variable {p : Property}

theorem members_eq (p : Property) : p.members =
    textField "type" (p.type.map TypeTag.name) ++ (textField "description" p.description ++
      p.extra) := by
  obtain ⟨type, description, extra⟩ := p
  cases type <;> rfl

theorem keys_textField_append (key : String) (text : Option String) (rest : Fields) :
    Entries.keys (textField key text ++ rest) =
      if text.isSome = true then key :: Entries.keys rest else Entries.keys rest := by
  cases text <;> rfl

theorem get?_textField_append {key other : String} (h : other ≠ key) (text : Option String)
    (rest : Fields) :
    Entries.get? (textField key text ++ rest) other = Entries.get? rest other := by
  cases text with
  | none => rfl
  | some s => exact (Entries.get?_cons _ rest other).trans (if_neg (Ne.symm h))

theorem distinct_textField_append_iff (key : String) (text : Option String) (rest : Fields) :
    Entries.Distinct (textField key text ++ rest) ↔
      rest.Distinct ∧ ¬(text.isSome = true ∧ key ∈ Entries.keys rest) := by
  rw [Entries.Distinct, keys_textField_append, Entries.Distinct]
  cases text with
  | none => simp
  | some s => simp [and_comm]

theorem type_not_mem_tail (h : p.Separate) (hsome : p.type.isSome = true) :
    "type" ∉ Entries.keys (textField "description" p.description ++ p.extra) := by
  have htype := h.type_not_mem hsome
  rw [keys_textField_append]
  split
  · exact List.not_mem_cons_of_ne_of_not_mem (by decide) htype
  · exact htype

/-- A property that is not shadowed is what its fields are read as. -/
theorem ofFields_members (h : p.Separate) (hshadowed : ¬p.Shadowed) : ofFields p.members = p := by
  have hdescription : splitText (textField "description" p.description ++ p.extra) "description" =
      (p.description, p.extra) :=
    splitText_textField (fun hsome hmem => hshadowed ⟨hsome, hmem⟩) h.description_not_text
  have htype : splitText p.members "type" =
      (p.type.map TypeTag.name, textField "description" p.description ++ p.extra) := by
    rw [members_eq]
    refine splitText_textField ?_ ?_
    · intro hsome
      rw [Option.isSome_map] at hsome
      exact type_not_mem_tail h hsome
    · intro hnone
      rw [get?_textField_append (by decide)]
      exact h.type_not_text (Option.map_eq_none_iff.1 hnone)
  simp only [ofFields, htype, hdescription, Option.map_map]
  exact congrArg (Property.mk · p.description p.extra) h.type_eq

theorem distinct_members_iff (h : p.Separate) : Entries.Distinct p.members ↔ ¬p.Shadowed := by
  have htype : ¬((p.type.map TypeTag.name).isSome = true ∧
      "type" ∈ Entries.keys (textField "description" p.description ++ p.extra)) := by
    rintro ⟨hsome, hmem⟩
    rw [Option.isSome_map] at hsome
    exact type_not_mem_tail h hsome hmem
  rw [members_eq, distinct_textField_append_iff, and_iff_left htype, distinct_textField_append_iff,
    and_iff_right h.distinct]
  rfl

theorem forall_members_iff {P : Json → Prop} (hstr : ∀ s, P (.str s)) (p : Property) :
    (∀ field ∈ p.members, P field.2) ↔ ∀ field ∈ p.extra, P field.2 := by
  obtain ⟨type, description, extra⟩ := p
  cases type <;> cases description <;> simp [members, hstr]

/-- **The text of a property** has a key twice exactly if the property is shadowed. -/
theorem distinctKeys_written_iff (h : p.Separate)
    (hextra : ∀ field ∈ p.extra, field.2.DistinctKeys) :
    p.written.DistinctKeys ↔ ¬p.Shadowed := by
  rw [written, distinctKeys_obj_iff, distinct_members_iff h, forall_members_iff .str]
  exact and_iff_left hextra

theorem nested_written_iff (h : p.Separate) :
    Nested maxDepth p.written ↔ ¬p.Shadowed ∧ p.Shallow := by
  have hdepth : maxDepth = maxDepth - 1 + 1 := rfl
  rw [hdepth, written, nested_obj_iff, distinct_members_iff h, forall_members_iff .str]
  rfl

/-! ## Reading back -/

theorem read_eq_ok_iff {text : String} :
    Property.read text = .ok p ↔ ∃ v, Json.read text = .ok v ∧ ofJson v = p := by
  unfold Property.read
  cases Json.read text with
  | error e =>
    constructor
    · intro h
      cases h
    · rintro ⟨v, h, -⟩
      cases h
  | ok v =>
    constructor
    · intro h
      cases h
      exact ⟨v, rfl, rfl⟩
    · rintro ⟨w, h, rfl⟩
      cases h
      rfl

/-- **No text is read as a shadowed property**, nor as one that keeps values aside which nest too
deep. -/
theorem not_shadowed_and_shallow_of_read {text : String} (h : Property.read text = .ok p) :
    ¬p.Shadowed ∧ p.Shallow := by
  obtain ⟨v, hread, rfl⟩ := read_eq_ok_iff.1 h
  have hnested := read_nested hread
  refine ⟨not_shadowed_ofJson v, forall_extra_ofJson ?_⟩
  rintro fields rfl
  exact (nested_obj_iff.1 hnested).2

theorem read_written (h : p.Separate) (hnumbers : ∀ field ∈ p.extra, Kept field.2)
    (hshadowed : ¬p.Shadowed) (hshallow : p.Shallow) :
    Property.read p.written.compact = .ok p := by
  have hkept : Kept p.written := kept_obj_iff.2 ((forall_members_iff .str p).2 hnumbers)
  have hnested : Nested maxDepth p.written := (nested_written_iff h).2 ⟨hshadowed, hshallow⟩
  exact read_eq_ok_iff.2 ⟨p.written, read_of_kept .compact hnested hkept,
    ofFields_members h hshadowed⟩

end Written

/-- A description keeps the property that was read out of the value from being read back. -/
theorem not_shadowed_described_ofJson_iff (v : Json) (texts : List String) :
    ¬((ofJson v).described texts).Shadowed ↔ texts = [] ∨ v.DescribedByText := by
  rw [shadowed_described_iff (not_shadowed_ofJson v), not_and_or, not_not]
  refine or_congr_right ?_
  cases v with
  | obj fields =>
    rw [ofJson, description_mem_extra_iff]
    simp only [not_exists, not_and, not_forall, not_not]
    exact ⟨fun h _ w heq => Json.obj.inj heq ▸ h w, fun h w => h fields w rfl⟩
  | _ => simp [ofJson, empty, Entries.keys, DescribedByText]

/-- **A property survives being written and read** if it was made of a type, whatever descriptions
are set in it. One that was read out of a value is written with a key twice exactly if a description
is set although the value has one that is no text, and no such property survives; every other one
does, unless values are kept aside that nest deeper than documents may. -/
theorem read_described (texts : List String) :
    (∀ name : String, ((ofType (.ofName name)).described texts).written.DistinctKeys ∧
      Property.read ((ofType (.ofName name)).described texts).written.compact =
        .ok ((ofType (.ofName name)).described texts)) ∧
    ∀ v : Json, v.DistinctKeys →
      (((ofJson v).described texts).written.DistinctKeys ↔ texts = [] ∨ v.DescribedByText) ∧
      (Property.read ((ofJson v).described texts).written.compact =
          .ok ((ofJson v).described texts) →
        (texts = [] ∨ v.DescribedByText) ∧ (ofJson v).Shallow) ∧
      (v.Kept → texts = [] ∨ v.DescribedByText → (ofJson v).Shallow →
        Property.read ((ofJson v).described texts).written.compact =
          .ok ((ofJson v).described texts)) := by
  constructor
  · intro name
    have hseparate := (separate_ofType name).described texts
    have hextra : ((ofType (.ofName name)).described texts).extra = [] := extra_described _ _
    have hshadowed : ¬((ofType (.ofName name)).described texts).Shadowed := by
      rw [Shadowed, hextra]
      exact fun h => List.not_mem_nil h.2
    have hempty : ∀ P : Json → Prop,
        ∀ field ∈ ((ofType (.ofName name)).described texts).extra, P field.2 := by
      rw [hextra]
      exact fun P => List.forall_mem_nil _
    exact ⟨(distinctKeys_written_iff hseparate (hempty _)).2 hshadowed,
      read_written hseparate (hempty _) hshadowed (hempty _)⟩
  · intro v hv
    have hseparate := (separate_ofJson hv).described texts
    have hextra : ((ofJson v).described texts).extra = (ofJson v).extra := extra_described _ _
    have hshallow : ((ofJson v).described texts).Shallow ↔ (ofJson v).Shallow := by
      rw [Shallow, hextra, Shallow]
    rw [← not_shadowed_described_ofJson_iff, ← hshallow]
    refine ⟨distinctKeys_written_iff hseparate ?_, not_shadowed_and_shallow_of_read,
      fun hkept => ?_⟩
    · rw [hextra]
      refine forall_extra_ofJson ?_
      rintro fields rfl
      exact (distinctKeys_obj_iff.1 hv).2
    · refine read_written hseparate ?_
      rw [hextra]
      refine forall_extra_ofJson ?_
      rintro fields rfl
      exact kept_obj_iff.1 hkept

/-- A property whose type cannot be used. -/
def lengthJson : Json :=
  .obj [("minimum", .num (.int 1)), ("type", .arr [.str "integer", .null]),
    ("description", .str "Length in bytes")]

theorem read_described_length :
    Property.read ((ofType (.ofName "uuid")).described ["Key", "Primary key"]).written.compact =
        .ok ((ofType (.ofName "uuid")).described ["Key", "Primary key"]) ∧
      lengthJson.DistinctKeys ∧ lengthJson.Kept ∧
      Property.read ((ofJson lengthJson).described ["Length"]).written.compact =
        .ok ((ofJson lengthJson).described ["Length"]) := by
  have hnested : Nested maxDepth lengthJson := by
    simp [maxDepth, lengthJson, nested_obj_iff, nested_arr_iff, Nested.str, Nested.num, Nested.null,
      Entries.Distinct, Entries.keys]
  have hnumbers : Integral lengthJson := by
    simp [lengthJson, integral_obj_iff, integral_arr_iff, integral_num_iff, Integral.str,
      Integral.null, Number.Integral]
  have htext : lengthJson.DescribedByText := by
    intro fields w hfields hw
    cases hfields
    cases hw
    exact ⟨_, rfl⟩
  have hshallow : (ofJson lengthJson).Shallow := by
    refine forall_extra_ofJson fun fields hfields => ?_
    rw [hfields] at hnested
    exact (nested_obj_iff.1 hnested).2
  exact ⟨((read_described ["Key", "Primary key"]).1 "uuid").2, hnested.distinctKeys, hnumbers.kept,
    ((read_described ["Length"]).2 lengthJson hnested.distinctKeys).2.2 hnumbers.kept (.inr htext)
      hshallow⟩

/-- A property whose description is a number. -/
def numberedJson : Json := .obj [("description", .num (.int 7))]

theorem written_described_numbered :
    ((ofJson numberedJson).described ["new"]).written.compact =
        "\x7b\"description\":\"new\",\"description\":7\x7d" ∧
      ¬((ofJson numberedJson).described ["new"]).written.DistinctKeys ∧
      Property.read ((ofJson numberedJson).described ["new"]).written.compact ≠
        .ok ((ofJson numberedJson).described ["new"]) := by
  have hshadowed : ((ofJson numberedJson).described ["new"]).Shadowed :=
    ⟨rfl, List.mem_singleton.2 rfl⟩
  have hrepeats : ¬Entries.Distinct ((ofJson numberedJson).described ["new"]).members := by decide
  refine ⟨by decide, fun h => hrepeats (distinctKeys_obj_iff.1 h).1, fun h => ?_⟩
  exact (not_shadowed_and_shallow_of_read h).1 hshadowed

end Property

end ToolScaffold
