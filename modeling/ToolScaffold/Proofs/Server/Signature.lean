import Mathlib.Data.List.TakeWhile
import ToolScaffold.Proofs.Entries
import ToolScaffold.Proofs.Server.Assembly
import ToolScaffold.Proofs.Validation.Accepted

/-!
# The line that opens a function

A line of the form `def name(parameters) -> str:` is read back as the name and the declared
parameters (`Signature.read?`); `read_signature` says that this gives the function and the
parameters of the tool, and `signature_emitted` that the line stands in the source behind the
function's decorator.

A signature is `Legal` if its parameters have different identifiers for names and no parameter
without a default comes after one with a default. In a project without problems the names are always
in order; `signature_legal_iff`: the signature is legal exactly if the schema declares what it
requires first.
-/

namespace ToolScaffold

/-- The required properties of the schema come before all others. -/
def InputSchema.RequiredFirst (s : InputSchema) : Prop :=
  s.names.Pairwise fun a b => s.isRequired b = true → s.isRequired a = true

namespace Server

/-! ## Reading the line -/

/-- A parameter as it is declared in a signature. -/
structure Declared where
  name : String
  annotation : String
  default? : Option String
  deriving DecidableEq, Repr

structure Signature where
  function : String
  parameters : List Declared
  deriving DecidableEq, Repr

/-- Reads `name: annotation` or `name: annotation = default`. -/
def Declared.read? (chars : List Char) : Option Declared :=
  let name := String.ofList (chars.takeWhile (· ≠ ':'))
  match chars.dropWhile (· ≠ ':') with
  | ':' :: ' ' :: rest =>
    let annotation := String.ofList (rest.takeWhile (· ≠ ' '))
    match rest.dropWhile (· ≠ ' ') with
    | [] => some ⟨name, annotation, none⟩
    | ' ' :: '=' :: ' ' :: value => some ⟨name, annotation, some (String.ofList value)⟩
    | _ => none
  | _ => none

/-- Reads the parameters between the parentheses. -/
def Signature.readParameters? (chars : List Char) : Option (List Declared) :=
  if chars = [] then some []
  else ((' ' :: chars).splitOn ',').mapM fun
    | ' ' :: piece => Declared.read? piece
    | _ => none

/-- Reads `def name(parameters) -> str:`. -/
def Signature.read? : List Char → Option Signature
  | 'd' :: 'e' :: 'f' :: ' ' :: line =>
    match line.dropWhile (· ≠ '(') with
    | '(' :: rest =>
      if rest.dropWhile (· ≠ ')') = ") -> str:".toList then
        (readParameters? (rest.takeWhile (· ≠ ')'))).map
          (⟨String.ofList (line.takeWhile (· ≠ '(')), ·⟩)
      else none
    | _ => none
  | _ => none

namespace Signature

/-- The parameters have different identifiers for names, and those with a default come last. -/
structure Legal (s : Signature) : Prop where
  name_valid : ∀ d ∈ s.parameters, Identifier.isValid d.name = true
  name_nodup : (s.parameters.map Declared.name).Nodup
  defaults_last : s.parameters.Pairwise fun a b =>
    a.default?.isSome = true → b.default?.isSome = true

instance (s : Signature) : Decidable s.Legal :=
  decidable_of_iff
    ((∀ d ∈ s.parameters, Identifier.isValid d.name = true) ∧
      (s.parameters.map Declared.name).Nodup ∧
      s.parameters.Pairwise fun a b => (!a.default?.isSome || b.default?.isSome) = true)
    (by
      have himp : ∀ a b : Bool, (!a || b) = true ↔ (a = true → b = true) := by decide
      simp only [himp]
      exact ⟨fun h => ⟨h.1, h.2.1, h.2.2⟩,
        fun h => ⟨h.name_valid, h.name_nodup, h.defaults_last⟩⟩)

end Signature

/-! ## What is read back -/

/-- The parameter as the signature declares it. -/
def declaredOf (p : Parameter) : Declared :=
  ⟨p.name, p.type.annotation, if p.required then none else some p.type.defaultLiteral⟩

def signatureOf (t : Tool) : Signature := ⟨t.identifier, t.inputSchema.parameters.map declaredOf⟩

section Until

variable {front : List Char} {c : Char} (h : c ∉ front)

include h in
theorem forall_ne_of_not_mem : ∀ d ∈ front, decide (d ≠ c) = true := by
  intro d hd
  exact decide_eq_true fun heq => h (heq ▸ hd)

include h in
theorem takeWhile_ne (rest : List Char) : (front ++ c :: rest).takeWhile (· ≠ c) = front := by
  rw [List.takeWhile_append_of_pos (forall_ne_of_not_mem h),
    List.takeWhile_cons_of_neg (by simp), List.append_nil]

include h in
theorem dropWhile_ne (rest : List Char) : (front ++ c :: rest).dropWhile (· ≠ c) = c :: rest := by
  rw [List.dropWhile_append_of_pos (forall_ne_of_not_mem h),
    List.dropWhile_cons_of_neg (by simp)]

end Until

theorem read_declaration {p : Parameter} (hp : Identifier.isValid p.name = true) :
    Declared.read? p.declaration.toList = some (declaredOf p) := by
  have hcolon : ':' ∉ p.name.toList := Identifier.not_mem_of_isPart_eq_false hp rfl
  have hblank : ' ' ∉ p.type.annotation.toList := by cases p.type <;> decide
  have hsplit : p.declaration.toList = p.name.toList ++ ':' :: ' ' :: (p.type.annotation.toList ++
      if p.required then [] else ' ' :: '=' :: ' ' :: p.type.defaultLiteral.toList) := by
    cases hrequired : p.required <;> simp [Parameter.declaration, hrequired]
  unfold Declared.read?
  rw [hsplit, takeWhile_ne hcolon, dropWhile_ne hcolon]
  cases hrequired : p.required with
  | true =>
    have htake := List.takeWhile_eq_self_iff.2 (forall_ne_of_not_mem hblank)
    have hdrop := List.dropWhile_eq_nil_iff.2 (forall_ne_of_not_mem hblank)
    simp only [↓reduceIte, List.append_nil, htake, hdrop, declaredOf, hrequired,
      String.ofList_toList]
  | false =>
    simp only [Bool.false_eq_true, ↓reduceIte, takeWhile_ne hblank, dropWhile_ne hblank,
      declaredOf, hrequired, String.ofList_toList]

theorem not_mem_declaration {p : Parameter} (hp : Identifier.isValid p.name = true) {c : Char}
    (hc : c = ',' ∨ c = ')') : c ∉ p.declaration.toList := by
  have hname : c ∉ p.name.toList :=
    Identifier.not_mem_of_isPart_eq_false hp (by rcases hc with rfl | rfl <;> rfl)
  have hfixed : c ∉ ": ".toList ∧ c ∉ " = ".toList ∧ c ∉ p.type.annotation.toList ∧
      c ∉ p.type.defaultLiteral.toList := by
    rcases hc with rfl | rfl <;> cases p.type <;> decide
  obtain ⟨hcolon, hequals, hannotation, hdefault⟩ := hfixed
  unfold Parameter.declaration
  cases p.required with
  | true =>
    simp only [↓reduceIte, String.toList_append, List.mem_append, not_or]
    exact ⟨⟨⟨hname, hcolon⟩, hannotation⟩, List.not_mem_nil⟩
  | false =>
    simp only [Bool.false_eq_true, ↓reduceIte, String.toList_append, List.mem_append, not_or]
    exact ⟨⟨⟨hname, hcolon⟩, hannotation⟩, hequals, hdefault⟩

theorem cons_blank_intercalate (d : String) (ds : List String) :
    ' ' :: (", ".intercalate (d :: ds)).toList =
      [','].intercalate ((d :: ds).map fun d => ' ' :: d.toList) := by
  induction ds generalizing d with
  | nil => simp
  | cons e ds ih =>
    have htail := ih e
    rw [List.map_cons] at htail
    rw [String.intercalate_cons_cons, List.map_cons, List.map_cons, List.intercalate_cons_cons,
      ← htail]
    simp

/-- Declarations with commas between them are read back one by one. -/
theorem readParameters_declarations {parameters : List Parameter}
    (h : ∀ p ∈ parameters, Identifier.isValid p.name = true) :
    Signature.readParameters? (", ".intercalate (parameters.map Parameter.declaration)).toList =
      some (parameters.map declaredOf) := by
  cases parameters with
  | nil => rfl
  | cons p ps =>
    -- with a blank in front of the first one, the pieces between commas all look the same
    have hne : (", ".intercalate ((p :: ps).map Parameter.declaration)).toList ≠ [] := by
      cases ps with
      | nil => simp [Parameter.declaration]
      | cons q ps => simp [String.intercalate_cons_cons]
    have hpieces : ((p :: ps).map Parameter.declaration).map (fun d => ' ' :: d.toList) ≠ [] := by
      simp
    have hcomma : ∀ piece ∈ ((p :: ps).map Parameter.declaration).map (fun d => ' ' :: d.toList),
        ',' ∉ piece := by
      intro piece hpiece
      rw [List.map_map] at hpiece
      obtain ⟨q, hq, rfl⟩ := List.mem_map.1 hpiece
      exact List.not_mem_cons_of_ne_of_not_mem (by decide) (not_mem_declaration (h q hq) (.inl rfl))
    rw [Signature.readParameters?, if_neg hne, List.map_cons, cons_blank_intercalate,
      ← List.map_cons, List.splitOn_intercalate ',' hcomma hpieces, List.map_map, List.mapM_map]
    exact mapM_eq_pure fun q hq => read_declaration (h q hq)

theorem read_signature {t : Tool} (ht : t.Accepted) :
    Signature.read? (signature t).toList = some (signatureOf t) := by
  have hopen : '(' ∉ t.identifier.toList :=
    Identifier.not_mem_of_isPart_eq_false ht.identifier_valid rfl
  have hclose : ')' ∉ (Function.ofTool t).params.toList := by
    refine intercalate_induction (P := fun s => ')' ∉ s.toList) (by decide) (fun a b ha hb => ?_)
      (by decide) fun d hd => ?_
    · rw [String.toList_append, List.mem_append, not_or]
      exact ⟨ha, hb⟩
    · obtain ⟨p, hp, rfl⟩ := List.mem_map.1 hd
      exact not_mem_declaration (ht.parameter_valid p hp) (.inr rfl)
  have hsplit : (signature t).toList = 'd' :: 'e' :: 'f' :: ' ' :: (t.identifier.toList ++
      '(' :: ((Function.ofTool t).params.toList ++ ')' :: " -> str:".toList)) := by
    simp [signature]
  rw [hsplit, Signature.read?]
  simp only [takeWhile_ne hopen, dropWhile_ne hopen, takeWhile_ne hclose, dropWhile_ne hclose]
  rw [if_pos (by decide), Function.ofTool, readParameters_declarations ht.parameter_valid,
    String.ofList_toList]
  rfl

/-! ## Where the line stands -/

theorem block_emitted {p : Project} {t : Tool} (ht : t ∈ p.tools) :
    ∃ before after, source p = .ok (before ++ block t ++ after) := by
  obtain ⟨front, back, htools⟩ := List.append_of_mem ht
  refine ⟨header p ++ String.join (front.map block), String.join (back.map block) ++ footer, ?_⟩
  rw [source_eq, assembled, htools, List.map_append, List.map_cons, String.join_append,
    String.join_cons]
  simp only [String.append_assoc]

/-- The line that opens the function of a tool stands in the source, behind the decorator. -/
theorem signature_emitted {p : Project} {t : Tool} (ht : t ∈ p.tools) :
    ∃ before after, source p =
      .ok (before ++ "\n@" ++ instanceName ++ ".tool()\n" ++ signature t ++ "\n" ++ after) := by
  obtain ⟨before, after, hsource⟩ := block_emitted ht
  refine ⟨before, statementLine (Function.ofTool t).docstring ++
    bodyText (Function.ofTool t).body ++ after, ?_⟩
  rw [hsource, block]
  simp only [String.append_assoc]

/-! ## Legal signatures -/

theorem names_declaredOf (s : InputSchema) :
    (s.parameters.map declaredOf).map Declared.name = s.names := by
  rw [InputSchema.parameters, List.map_map, List.map_map]
  rfl

theorem declaredOf_isSome (p : Parameter) : (declaredOf p).default?.isSome = !p.required := by
  unfold declaredOf
  cases p.required <;> rfl

/-- Defaults come last exactly if what is required comes first. -/
theorem pairwise_declaredOf_iff (s : InputSchema) :
    ((s.parameters.map declaredOf).Pairwise fun a b =>
      a.default?.isSome = true → b.default?.isSome = true) ↔ s.RequiredFirst := by
  simp only [InputSchema.parameters, InputSchema.RequiredFirst, InputSchema.names, Entries.keys,
    List.pairwise_map, declaredOf_isSome, Bool.not_eq_true', ← Bool.not_eq_true, not_imp_not]

/-- **The signatures of a project without problems**: the line that opens the function of a tool
stands in the source, and its parameters have identifiers for names, which are different as a schema
holds each property once. The line is legal exactly if the schema declares what it requires
first. -/
theorem signature_legal_iff {p : Project} (hp : p.validate.problems = []) {t : Tool}
    (ht : t ∈ p.tools) :
    ∃ before after s, source p =
        .ok (before ++ "\n@" ++ instanceName ++ ".tool()\n" ++ signature t ++ "\n" ++ after) ∧
      Signature.read? (signature t).toList = some s ∧
      (∀ d ∈ s.parameters, Identifier.isValid d.name = true) ∧
      (s.parameters.map Declared.name).Nodup ∧ (s.Legal ↔ t.inputSchema.RequiredFirst) := by
  have haccepted := Project.tool_accepted hp ht
  obtain ⟨before, after, hsource⟩ := signature_emitted ht
  have hvalid : ∀ d ∈ (signatureOf t).parameters, Identifier.isValid d.name = true := by
    intro d hd
    obtain ⟨parameter, hparameter, rfl⟩ := List.mem_map.1 hd
    exact haccepted.parameter_valid parameter hparameter
  have hnodup : ((signatureOf t).parameters.map Declared.name).Nodup := by
    rw [signatureOf, names_declaredOf]
    exact t.inputSchema.distinct
  refine ⟨before, after, signatureOf t, hsource, read_signature haccepted, hvalid, hnodup, ?_⟩
  rw [← pairwise_declaredOf_iff]
  exact ⟨Signature.Legal.defaults_last, fun h => ⟨hvalid, hnodup, h⟩⟩

/-- A search for a query on a page, of which one is required. -/
def search (required : String) : Tool :=
  { Tool.ofName "search" .static with
    inputSchema := .ofDocument [("properties", .obj [("page", .obj [("type", .str "integer")]),
      ("query", .obj [("type", .str "string")])]), ("required", .arr [.str required])] }

theorem search_page_legal :
    (Project.mk "Search" [search "page"]).validate.problems = [] ∧
      search "page" ∈ [search "page"] ∧
    ∃ before after s, source ⟨"Search", [search "page"]⟩ = .ok (before ++ "\n@" ++ instanceName ++
        ".tool()\n" ++ signature (search "page") ++ "\n" ++ after) ∧
      Signature.read? (signature (search "page")).toList = some s ∧
      (∀ d ∈ s.parameters, Identifier.isValid d.name = true) ∧
      (s.parameters.map Declared.name).Nodup ∧
      (s.Legal ↔ (search "page").inputSchema.RequiredFirst) := by
  have hp : (Project.mk "Search" [search "page"]).validate.problems = [] := by decide +kernel
  have ht : search "page" ∈ [search "page"] := List.mem_cons_self
  exact ⟨hp, ht, signature_legal_iff hp ht⟩

/-- The query is required and comes after the page, which has a default. -/
theorem search_query_not_legal :
    (Project.mk "Search" [search "query"]).validate.problems = [] ∧
    ∃ s, Signature.read? (signature (search "query")).toList = some s ∧ ¬s.Legal := by
  have hp : (Project.mk "Search" [search "query"]).validate.problems = [] := by decide +kernel
  have haccepted := Project.tool_accepted hp (List.mem_cons_self (a := search "query"))
  exact ⟨hp, _, read_signature haccepted, by decide +kernel⟩

end Server

end ToolScaffold
