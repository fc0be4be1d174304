import ToolScaffold.Proofs.Server.Agreement
import ToolScaffold.Proofs.Server.Filling
import ToolScaffold.Validation

/-!
# Placeholders are filled in or warned about

The function of a tool fills in the placeholders of its address that name a parameter, and
validation warns about the others; both look at the address and at the schema by themselves.
`placeholders_served`: together they deal with every placeholder once. The keys of the values that
the function fills in, and the placeholders of the warnings, make up the placeholders of the address
(`Serves`), each list in the order of the address. A tool that asks no address has neither
(`AsksNothing`).
-/

namespace ToolScaffold

/-- The list is made up of the two others, each of which keeps its order. -/
inductive Interleaved {α : Type} : List α → List α → List α → Prop where
  | nil : Interleaved [] [] []
  | left {a : α} {xs ys zs : List α} (h : Interleaved xs ys zs) : Interleaved (a :: xs) ys (a :: zs)
  | right {a : α} {xs ys zs : List α} (h : Interleaved xs ys zs) :
    Interleaved xs (a :: ys) (a :: zs)

/-- A list is made up of the elements that pass a test and of those that do not. -/
theorem interleaved_filter {α : Type} (p : α → Bool) (xs : List α) :
    Interleaved (xs.filter p) (xs.filter fun a => !p a) xs := by
  induction xs with
  | nil => exact .nil
  | cons a rest ih =>
    cases h : p a with
    | true =>
      rw [List.filter_cons_of_pos h, List.filter_cons_of_neg (by simp [h])]
      exact .left ih
    | false =>
      rw [List.filter_cons_of_neg (by simp [h]), List.filter_cons_of_pos (by simp [h])]
      exact .right ih

/-- The placeholder that a warning is about, if it is about one. -/
def Warning.placeholder? : Warning → Option String
  | unboundPlaceholder _ name => some name
  | _ => none

/-- The warnings about placeholders of the tool. -/
def Tool.placeholderWarnings (t : Tool) : List Warning :=
  t.warnings.filter fun warning => warning.placeholder?.isSome

namespace Server

/-- The values that placeholders are filled from, as they are written. -/
def valuesText (keys : List String) : String :=
  ", ".intercalate (keys.map fun key => literal key ++ ": " ++ key)

/-- The function of a tool fills in the one placeholders of an address, and the warnings about the
tool name the others. -/
structure Serves (t : Tool) (endpoint : String) (filled unfilled : List String) : Prop where
  body_eq : (Emitted.ofTool t).body = callBody (literal endpoint) (valuesText filled)
  /-- The keys are written as literals, and the values are parameters of the same function. -/
  key_eq : ∀ key ∈ filled, decode? (literal key) = some key ∧
    ∃ d ∈ (Emitted.ofTool t).parameters, d.name = key
  warnings_eq : t.placeholderWarnings = unfilled.map (.unboundPlaceholder t.name)
  filled_listed : Listed 0
    ((UrlTemplate.occurrences endpoint).filter fun name => t.inputSchema.names.contains name) filled
  unfilled_listed : Listed 0
    ((UrlTemplate.occurrences endpoint).filter fun name => !t.inputSchema.names.contains name)
    unfilled
  interleaved : Interleaved filled unfilled (UrlTemplate.parse endpoint).placeholders

/-- The function of the tool answers with a fixed text, and no warning is about a placeholder. -/
structure AsksNothing (t : Tool) : Prop where
  body_eq : ∃ lit, (Emitted.ofTool t).body = ["return " ++ lit] ∧
    decode? lit = some ("Executed " ++ t.name)
  warnings_eq : t.placeholderWarnings = []

/-! ## Warnings -/

section Warnings

variable (t : Tool)

theorem warnings_eq : t.warnings =
    if t.hasBlankName then []
    else
      t.inputSchema.danglingRequired.map (.undeclaredParameter t.name) ++
        match t.asked? with
        | some endpoint => t.endpointWarnings endpoint
        | none => [] := by
  unfold Tool.warnings Tool.asked?
  cases t.handler with
  | static => rfl
  | api => cases t.endpoint? <;> rfl

theorem filter_undeclared (names : List String) :
    (names.map (Warning.undeclaredParameter t.name)).filter
      (fun warning => warning.placeholder?.isSome) = [] := by
  rw [List.filter_eq_nil_iff]
  intro warning hwarning
  obtain ⟨name, -, rfl⟩ := List.mem_map.1 hwarning
  exact Bool.false_ne_true

theorem filter_endpointWarnings (endpoint : String) :
    (t.endpointWarnings endpoint).filter (fun warning => warning.placeholder?.isSome) =
      ((UrlTemplate.parse endpoint).unbound t.inputSchema.names).map
        (.unboundPlaceholder t.name) := by
  have hkept : ∀ names : List String,
      (names.map (Warning.unboundPlaceholder t.name)).filter
        (fun warning => warning.placeholder?.isSome) = names.map (.unboundPlaceholder t.name) := by
    intro names
    rw [List.filter_eq_self]
    intro warning hwarning
    obtain ⟨name, -, rfl⟩ := List.mem_map.1 hwarning
    rfl
  rw [Tool.endpointWarnings, List.filter_append, hkept]
  split <;> rfl

variable {t}

/-- **The placeholders that are warned about** are those of the address that name no parameter. -/
theorem placeholderWarnings_of_asked {endpoint : String} (hname : t.hasBlankName = false)
    (hasked : t.asked? = some endpoint) : t.placeholderWarnings =
      ((UrlTemplate.parse endpoint).unbound t.inputSchema.names).map
        (.unboundPlaceholder t.name) := by
  rw [Tool.placeholderWarnings, warnings_eq, hname, if_neg Bool.false_ne_true, hasked,
    List.filter_append, filter_undeclared, filter_endpointWarnings, List.nil_append]

theorem placeholderWarnings_of_not_asked (hasked : t.asked? = none) :
    t.placeholderWarnings = [] := by
  rw [Tool.placeholderWarnings, warnings_eq, hasked]
  split
  · rfl
  · rw [List.append_nil, filter_undeclared]

end Warnings

/-! ## Both sides -/

section Served

variable {t : Tool}

/-- The parameters of a function are named as the properties of its tool. -/
theorem exists_parameter {key : String} (h : key ∈ t.inputSchema.names) :
    ∃ d ∈ (Emitted.ofTool t).parameters, d.name = key := by
  obtain ⟨entry, hentry, rfl⟩ := List.mem_map.1 h
  refine ⟨_, List.mem_map_of_mem (List.mem_map_of_mem hentry), rfl⟩

/-- The placeholders of an address that a tool asks are filled in or warned about. -/
theorem serves_of_asked {endpoint : String} (hname : t.hasBlankName = false)
    (hasked : t.asked? = some endpoint) :
    Serves t endpoint (filledKeys endpoint t.inputSchema)
      ((UrlTemplate.parse endpoint).unbound t.inputSchema.names) where
  body_eq := by
    rw [Emitted.ofTool, bodyOf_eq, hasked]
    rfl
  key_eq key hkey := ⟨decode?_literal key, exists_parameter (UrlTemplate.mem_bound_iff.1 hkey).2⟩
  warnings_eq := placeholderWarnings_of_asked hname hasked
  filled_listed := by
    rw [filledKeys, UrlTemplate.bound_eq_distinct]
    exact listed_distinct _
  unfilled_listed := by
    rw [UrlTemplate.unbound_eq_distinct]
    exact listed_distinct _
  interleaved := interleaved_filter _ _

theorem asksNothing_of_not_asked (hasked : t.asked? = none) : AsksNothing t where
  body_eq := by
    refine ⟨literal ("Executed " ++ t.name), ?_, decode?_literal _⟩
    rw [Emitted.ofTool, bodyOf_eq, hasked]
    rfl
  warnings_eq := placeholderWarnings_of_not_asked hasked

end Served

/-- **Every placeholder is filled in or warned about**, and none is both, if a tool with a name asks
an address; the function and the warnings of any other tool are about none. The warnings about a
project hold those about a tool at the tool's place. -/
theorem placeholders_served (t : Tool) :
    (∀ endpoint, t.hasBlankName = false → t.handler = .api → t.handlerCode = some endpoint →
      endpoint ≠ "" → ∃ filled unfilled, Serves t endpoint filled unfilled) ∧
    (t.handler = .static ∨ t.handlerCode = none ∨ t.handlerCode = some "" → AsksNothing t) ∧
    ∀ name front back, (Project.mk name (front ++ t :: back)).validate.warnings =
      front.flatMap Tool.warnings ++ t.warnings ++ back.flatMap Tool.warnings := by
  refine ⟨?_, ?_, ?_⟩
  · intro endpoint hname hhandler hcode hne
    exact ⟨_, _, serves_of_asked hname (Tool.asked?_eq_some_iff.2 ⟨hhandler, hcode, hne⟩)⟩
  · intro hnone
    refine asksNothing_of_not_asked (Option.eq_none_iff_forall_ne_some.2 fun url hasked => ?_)
    obtain ⟨hhandler, hcode, hne⟩ := Tool.asked?_eq_some_iff.1 hasked
    rcases hnone with h | h | h
    · rw [hhandler] at h
      cases h
    · rw [hcode] at h
      cases h
    · rw [hcode] at h
      exact hne (Option.some.inj h)
  · intro name front back
    have hwarnings : (Project.mk name (front ++ t :: back)).validate.warnings =
        (front ++ t :: back).flatMap Tool.warnings := rfl
    rw [hwarnings, List.flatMap_append, List.flatMap_cons, List.append_assoc]

/-- An address with a placeholder that names no parameter, and one that does and occurs twice. -/
def searchEndpoint : String := "https://x.test/\x7btoken\x7d/\x7bq\x7d?again=\x7bq\x7d"

def searchTool : Tool where
  name := "search"
  description := none
  inputSchema := .ofDocument [("properties", .obj [("page", .null), ("q", .null)])]
  outputSchema := none
  handler := .api
  handlerCode := some searchEndpoint

theorem serves_searchTool : searchTool.hasBlankName = false ∧ searchTool.handler = .api ∧
    searchTool.handlerCode = some searchEndpoint ∧ searchEndpoint ≠ "" ∧
    ∃ filled unfilled, Serves searchTool searchEndpoint filled unfilled := by
  have hname : searchTool.hasBlankName = false := by decide
  have hne : searchEndpoint ≠ "" := by decide
  exact ⟨hname, rfl, rfl, hne, (placeholders_served searchTool).1 _ hname rfl rfl hne⟩

end Server

end ToolScaffold
