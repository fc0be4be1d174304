import ToolScaffold.Json.Schema
import ToolScaffold.Proofs.Entries

/-!
# What a schema asks of a value

`Passes` says which values a schema lets pass, keyword by keyword: what is said about keys is about
objects only, and what is said about items about lists only. `violations_eq_nil_iff_passes`: nothing
is wrong with a value exactly if it passes.
-/

namespace ToolScaffold.Json.Schema

/-- The schema lets the value pass. -/
inductive Passes : Schema → Json → Prop where
  | rules {types : List TypeName} {required : List String} {properties : List (String × Schema)}
    {items : Option Schema} {v : Json}
    (type : types = [] ∨ ∃ t ∈ types, t.admits v = true)
    (keys : ∀ fields, v = .obj fields → ∀ key ∈ required, ∃ w, Entries.get? fields key = some w)
    (values : ∀ fields, v = .obj fields → ∀ key schema w, (key, schema) ∈ properties →
      Entries.get? fields key = some w → Passes schema w)
    (elements : ∀ ws schema, v = .arr ws → items = some schema → ∀ w ∈ ws, Passes schema w) :
    Passes (.rules types required properties items) v

theorem typeViolations_eq_nil_iff {types : List TypeName} {v : Json} :
    (if types.isEmpty || types.any (·.admits v) then [] else [Violation.wrongType v types]) = [] ↔
      types = [] ∨ ∃ t ∈ types, t.admits v = true := by
  have hcond : (types.isEmpty || types.any (·.admits v)) = true ↔
      types = [] ∨ ∃ t ∈ types, t.admits v = true := by
    rw [Bool.or_eq_true, List.isEmpty_iff, List.any_eq_true]
  rw [← hcond]
  split <;> simp [*]

theorem missingKeys_eq_nil_iff {required : List String} {fields : Fields} :
    (required.filter fun key => (Entries.get? fields key).isNone).map Violation.missingKey = [] ↔
      ∀ key ∈ required, ∃ w, Entries.get? fields key = some w := by
  simp [List.filter_eq_nil_iff, Option.ne_none_iff_exists']

theorem propertyViolations_eq_nil_iff {properties : List (String × Schema)} {fields : Fields} :
    propertyViolations properties fields = [] ↔ ∀ key schema w, (key, schema) ∈ properties →
      Entries.get? fields key = some w → schema.violations w = [] := by
  induction properties with
  | nil => simp [propertyViolations]
  | cons property rest ih =>
    obtain ⟨key, schema⟩ := property
    rw [propertyViolations, List.append_eq_nil_iff, ih]
    constructor
    · rintro ⟨hfirst, hrest⟩ other otherSchema w hmem hw
      rcases List.mem_cons.1 hmem with heq | hmem
      · cases heq
        rw [hw] at hfirst
        exact hfirst
      · exact hrest other otherSchema w hmem hw
    · intro h
      refine ⟨?_, fun other otherSchema w hmem => h other otherSchema w (List.mem_cons_of_mem _ hmem)⟩
      cases hw : Entries.get? fields key with
      | none => rfl
      | some w => exact h key schema w List.mem_cons_self hw

theorem itemViolations_eq_nil_iff {items : Option Schema} {ws : List Json} :
    itemViolations items ws = [] ↔
      ∀ schema, items = some schema → ∀ w ∈ ws, schema.violations w = [] := by
  cases items with
  | none => simp [itemViolations]
  | some schema => simp [itemViolations, List.flatMap_eq_nil_iff]

/-- Nothing is wrong with a value exactly if all that the keywords say holds of it. -/
theorem violations_rules_eq_nil_iff {types : List TypeName} {required : List String}
    {properties : List (String × Schema)} {items : Option Schema} {v : Json} :
    (rules types required properties items).violations v = [] ↔
      (types = [] ∨ ∃ t ∈ types, t.admits v = true) ∧
      (∀ fields, v = .obj fields → (∀ key ∈ required, ∃ w, Entries.get? fields key = some w) ∧
        ∀ key schema w, (key, schema) ∈ properties → Entries.get? fields key = some w →
          schema.violations w = []) ∧
      ∀ ws, v = .arr ws → ∀ schema, items = some schema → ∀ w ∈ ws, schema.violations w = [] := by
  rw [violations.eq_def]
  dsimp only
  rw [List.append_eq_nil_iff, typeViolations_eq_nil_iff]
  cases v with
  | obj fields =>
    simp [missingKeys_eq_nil_iff, propertyViolations_eq_nil_iff, -List.map_eq_nil_iff]
  | arr ws => simp [itemViolations_eq_nil_iff]
  | _ => simp

theorem passes_of_violations : (schema : Schema) → {v : Json} → schema.violations v = [] →
    schema.Passes v
  | .never, v, h => by
    rw [violations] at h
    cases h
  | .rules types required properties items, v, h => by
    obtain ⟨htype, hobject, hlist⟩ := violations_rules_eq_nil_iff.1 h
    refine .rules htype (fun fields hv => (hobject fields hv).1) ?_ ?_
    · intro fields hv key schema w hmem hw
      have hsmaller : sizeOf schema < 1 + sizeOf properties := by
        have hentry := List.sizeOf_lt_of_mem hmem
        rw [Prod.mk.sizeOf_spec] at hentry
        omega
      exact passes_of_violations schema ((hobject fields hv).2 key schema w hmem hw)
    · intro ws schema hv hitems w hw
      subst hitems
      exact passes_of_violations schema (hlist ws hv schema rfl w hw)

theorem Passes.violations_eq_nil {schema : Schema} {v : Json} (h : schema.Passes v) :
    schema.violations v = [] := by
  induction h with
  | rules type keys values elements ihvalues ihelements =>
    refine violations_rules_eq_nil_iff.2 ⟨type, fun fields hv => ⟨keys fields hv, ?_⟩, ?_⟩
    · exact ihvalues fields hv
    · intro ws hv schema
      exact ihelements ws schema hv

/-- **Nothing is wrong with a value** exactly if its schema lets it pass. -/
theorem violations_eq_nil_iff_passes {schema : Schema} {v : Json} :
    schema.violations v = [] ↔ schema.Passes v :=
  ⟨passes_of_violations schema, Passes.violations_eq_nil⟩

/-! ## Common schemas -/

theorem passes_oneOf_iff {types : List TypeName} {v : Json} (hne : types ≠ []) :
    (oneOf types).Passes v ↔ ∃ t ∈ types, t.admits v = true := by
  constructor
  · rintro ⟨type, -, -, -⟩
    exact type.resolve_left hne
  · intro h
    exact .rules (.inr h) (fun _ _ key hkey => absurd hkey List.not_mem_nil)
      (fun _ _ _ _ _ hmem => absurd hmem List.not_mem_nil) (fun _ _ _ hitems => by cases hitems)

/-- An object has the required keys, and the values under the listed keys pass. -/
theorem passes_object_iff {required : List String} {properties : List (String × Schema)}
    {v : Json} : (rules [.object] required properties none).Passes v ↔
      ∃ fields, v = .obj fields ∧ (∀ key ∈ required, ∃ w, Entries.get? fields key = some w) ∧
        ∀ property ∈ properties, ∀ w, Entries.get? fields property.1 = some w →
          property.2.Passes w := by
  constructor
  · rintro ⟨type, keys, values, -⟩
    obtain ⟨t, ht, hadmits⟩ := type.resolve_left (List.cons_ne_nil _ _)
    obtain rfl := List.mem_singleton.1 ht
    cases v with
    | obj fields =>
      refine ⟨fields, rfl, keys fields rfl, ?_⟩
      intro property hmem w
      exact values fields rfl property.1 property.2 w hmem
    | _ => cases hadmits
  · rintro ⟨fields, rfl, hkeys, hvalues⟩
    refine .rules (.inr ⟨.object, List.mem_singleton_self _, rfl⟩) ?_ ?_ ?_
    · rintro _ ⟨⟩
      exact hkeys
    · rintro _ ⟨⟩ key schema w hmem
      exact hvalues (key, schema) hmem w
    · rintro _ _ ⟨⟩

/-- A list has items that pass. -/
theorem passes_list_iff {schema : Schema} {v : Json} :
    (rules [.array] [] [] (some schema)).Passes v ↔
      ∃ ws, v = .arr ws ∧ ∀ w ∈ ws, schema.Passes w := by
  constructor
  · rintro ⟨type, -, -, elements⟩
    obtain ⟨t, ht, hadmits⟩ := type.resolve_left (List.cons_ne_nil _ _)
    obtain rfl := List.mem_singleton.1 ht
    cases v with
    | arr ws => exact ⟨ws, rfl, elements ws schema rfl rfl⟩
    | _ => cases hadmits
  · rintro ⟨ws, rfl, h⟩
    refine .rules (.inr ⟨.array, List.mem_singleton_self _, rfl⟩) ?_ ?_ ?_
    · rintro _ ⟨⟩
    · rintro _ ⟨⟩
    · rintro _ _ ⟨⟩ ⟨⟩
      exact h

end ToolScaffold.Json.Schema
