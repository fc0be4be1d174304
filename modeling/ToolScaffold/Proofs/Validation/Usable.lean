import Mathlib.Data.List.Nodup
import ToolScaffold.Proofs.Validation.Accepted

/-!
# Projects without problems

`Project.problems_eq_nil_iff_usable`: validation finds no problem in a project exactly if the project is
`Usable`, which says of the project itself, without the order of the checks, what the generated
server needs: tools with names, functions with different names, names of functions and parameters
that the language allows and the server leaves free, and an address for every tool that asks one.

Two checks together keep the functions apart. One looks for names that are used twice, the other for
different names that give one function; neither alone sees all functions that share their name
(`sharedProblems_eq_nil_iff`).
-/

namespace ToolScaffold

/-! ## Names that can be used -/

namespace Identifier

/-- A letter from `A` to `Z` or from `a` to `z`. -/
def IsLetter (c : Char) : Prop := ('A' ≤ c ∧ c ≤ 'Z') ∨ ('a' ≤ c ∧ c ≤ 'z')

/-- A letter or an underscore, then letters, underscores and digits. -/
def IsWord (name : String) : Prop :=
  ∃ c rest, name.toList = c :: rest ∧ (IsLetter c ∨ c = '_') ∧
    ∀ d ∈ rest, IsLetter d ∨ d = '_' ∨ ('0' ≤ d ∧ d ≤ '9')

/-- The words that the language keeps for itself: its constants, the words of its expressions, those
of its simple statements, and those of its compound statements. -/
def languageWords : List String :=
  ["None", "True", "False"] ++
  ["and", "await", "in", "is", "lambda", "not", "or", "yield"] ++
  ["assert", "break", "continue", "del", "from", "global", "import", "nonlocal", "pass", "raise",
    "return"] ++
  ["as", "async", "class", "def", "elif", "else", "except", "finally", "for", "if", "try", "while",
    "with"]

/-- The names that the generated server gives to its module, its requests and its helper. -/
def serverWords : List String := ["mcp", "_requests", "_fill_placeholders"]

/-- A word that neither the language nor the generated server keeps for itself. -/
structure Available (name : String) : Prop where
  word : IsWord name
  not_language : name ∉ languageWords
  not_server : name ∉ serverWords

/-- Validation knows the words of the language. -/
theorem mem_languageWords_iff (name : String) : name ∈ languageWords ↔ name ∈ keywords := by
  have hperm : languageWords.Perm keywords := by decide +kernel
  exact hperm.mem_iff

/-- Validation knows the names of the server. -/
theorem mem_serverWords_iff (name : String) :
    name ∈ serverWords ↔ name ∈ Server.reservedNames := Iff.rfl

theorem isStart_iff (c : Char) : isStart c = true ↔ IsLetter c ∨ c = '_' := by
  unfold isStart Char.isAlpha Char.isUpper Char.isLower IsLetter
  simp only [Bool.or_eq_true, Bool.and_eq_true, decide_eq_true_eq]
  rfl

theorem isPart_iff (c : Char) :
    isPart c = true ↔ IsLetter c ∨ c = '_' ∨ ('0' ≤ c ∧ c ≤ '9') := by
  unfold isPart Char.isDigit
  rw [Bool.or_eq_true, isStart_iff, or_assoc]
  simp only [Bool.and_eq_true, decide_eq_true_eq]
  rfl

theorem hasForm_iff (name : String) : hasForm name.toList = true ↔ IsWord name := by
  unfold IsWord
  cases name.toList with
  | nil => simp [hasForm]
  | cons c rest =>
    simp only [hasForm, Bool.and_eq_true, isStart_iff, List.all_eq_true, isPart_iff]
    constructor
    · rintro ⟨hstart, hrest⟩
      exact ⟨c, rest, rfl, hstart, hrest⟩
    · rintro ⟨d, others, heq, hstart, hrest⟩
      obtain ⟨rfl, rfl⟩ := List.cons.inj heq
      exact ⟨hstart, hrest⟩

theorem available_iff (name : String) :
    Available name ↔ isValid name = true ∧ name ∉ Server.reservedNames := by
  have hvalid : isValid name = true ↔ IsWord name ∧ name ∉ languageWords := by
    simp [isValid, hasForm_iff, mem_languageWords_iff]
  rw [hvalid, ← mem_serverWords_iff]
  constructor
  · intro h
    exact ⟨⟨h.word, h.not_language⟩, h.not_server⟩
  · rintro ⟨⟨hword, hlanguage⟩, hserver⟩
    exact ⟨hword, hlanguage, hserver⟩

end Identifier

/-! ## Functions with different names -/

theorem recurring_eq_nil_iff (seen names : List String) :
    recurring seen names = [] ↔ names.Nodup ∧ ∀ name ∈ names, name ∉ seen := by
  induction names generalizing seen with
  | nil => simp [recurring]
  | cons name rest ih =>
    unfold recurring
    by_cases hseen : name ∈ seen
    · simp [hseen]
    · simp only [List.contains_iff_mem, hseen, ↓reduceIte, ih, List.mem_cons, not_or]
      constructor
      · rintro ⟨hnodup, hrest⟩
        have hname : name ∉ rest := fun hmem => (hrest name hmem).1 rfl
        refine ⟨List.nodup_cons.2 ⟨hname, hnodup⟩, ?_⟩
        rintro other (rfl | hmem)
        · exact hseen
        · exact (hrest other hmem).2
      · rintro ⟨hnodup, hfree⟩
        obtain ⟨hname, hnodup⟩ := List.nodup_cons.1 hnodup
        refine ⟨hnodup, fun other hmem => ⟨?_, hfree other (.inr hmem)⟩⟩
        rintro rfl
        exact hname hmem

theorem repeatedNames_eq_nil_iff (names : List String) :
    repeatedNames names = [] ↔ names.Nodup := by
  have hdistinct : ∀ xs : List String, distinct xs = [] ↔ xs = [] := by
    intro xs
    cases xs <;> simp [distinct]
  rw [repeatedNames, hdistinct, recurring_eq_nil_iff]
  simp

/-- No more than one element is left exactly if all elements are the same. -/
theorem length_distinct_le_one_iff (xs : List String) :
    (distinct xs).length ≤ 1 ↔ ∀ a ∈ xs, ∀ b ∈ xs, a = b := by
  have hnodup := nodup_distinct xs
  have hmem : ∀ a, a ∈ distinct xs ↔ a ∈ xs := fun a => mem_distinct
  generalize distinct xs = ys at hnodup hmem
  match ys with
  | [] =>
    have hnone : ∀ a, a ∉ xs := fun a ha => List.not_mem_nil ((hmem a).2 ha)
    simp [hnone]
  | [c] =>
    refine ⟨fun _ a ha b hb => ?_, fun _ => Nat.le_refl 1⟩
    rw [List.mem_singleton.1 ((hmem a).2 ha), List.mem_singleton.1 ((hmem b).2 hb)]
  | c :: d :: zs =>
    constructor
    · intro h
      simp at h
    · intro h
      have hc : c ∈ xs := (hmem c).1 List.mem_cons_self
      have hd : d ∈ xs := (hmem d).1 (List.mem_cons_of_mem c List.mem_cons_self)
      have hne : c ∉ d :: zs := (List.nodup_cons.1 hnodup).1
      exact absurd (h c hc d hd ▸ List.mem_cons_self) hne

section Shared

variable (tools : List Tool)

theorem mem_named_iff (identifier name : String) :
    name ∈ (tools.filter fun t => t.identifier = identifier).map Tool.name ↔
      ∃ t ∈ tools, t.identifier = identifier ∧ t.name = name := by
  simp [List.mem_map, List.mem_filter, and_assoc]

/-- No identifier has two names exactly if tools of one function have one name. -/
theorem filterMap_sharedProblem?_eq_nil_iff :
    (distinct (tools.map Tool.identifier)).filterMap (sharedProblem? tools) = [] ↔
      ∀ t ∈ tools, ∀ u ∈ tools, t.identifier = u.identifier → t.name = u.name := by
  have hone : ∀ identifier, sharedProblem? tools identifier = none ↔
      (namesGiving tools identifier).length ≤ 1 := by
    intro identifier
    simp [sharedProblem?]
  simp only [List.filterMap_eq_nil_iff, hone, namesGiving, length_distinct_le_one_iff,
    mem_named_iff, mem_distinct]
  constructor
  · intro h t ht u hu heq
    exact h u.identifier (List.mem_map_of_mem hu) t.name ⟨t, ht, heq, rfl⟩ u.name ⟨u, hu, rfl, rfl⟩
  · rintro h identifier - _ ⟨t, ht, rfl, rfl⟩ _ ⟨u, hu, heq, rfl⟩
    exact h t ht u hu heq.symm

/-- **No problem is found among the tools** exactly if all functions have different names. -/
theorem sharedProblems_eq_nil_iff :
    sharedProblems tools = [] ↔ (tools.map Tool.identifier).Nodup := by
  rw [sharedProblems, List.append_eq_nil_iff, List.map_eq_nil_iff, repeatedNames_eq_nil_iff,
    filterMap_sharedProblem?_eq_nil_iff]
  constructor
  · rintro ⟨hnames, hsame⟩
    rw [List.Nodup, List.pairwise_map] at hnames ⊢
    refine hnames.imp_of_mem ?_
    intro t u ht hu hne heq
    exact hne (hsame t ht u hu heq)
  · intro hnodup
    refine ⟨?_, ?_⟩
    · -- tools of one name have one function, as the identifier is derived from the name
      rw [List.Nodup, List.pairwise_map] at hnodup ⊢
      refine hnodup.imp ?_
      intro t u hne heq
      exact hne (congrArg Identifier.derive heq)
    · intro t ht u hu heq
      rw [List.inj_on_of_nodup_map hnodup ht hu heq]

end Shared

/-! ## Usable projects -/

/-- What the generated server needs of a project. -/
structure Project.Usable (p : Project) : Prop where
  /-- No name of a tool is all white space. -/
  named : ∀ t ∈ p.tools, ∃ c ∈ t.name.toList, Text.isBlankChar c = false
  /-- The functions of tools at different positions have different names. -/
  functions_distinct : (p.tools.map Tool.identifier).Nodup
  function_available : ∀ t ∈ p.tools, Identifier.Available t.identifier
  parameter_available : ∀ t ∈ p.tools, ∀ name ∈ t.inputSchema.names, Identifier.Available name
  endpoint_present : ∀ t ∈ p.tools, t.handler = .api → ∃ code, t.handlerCode = some code ∧ code ≠ ""

theorem Tool.hasBlankName_eq_false_iff (t : Tool) :
    t.hasBlankName = false ↔ ∃ c ∈ t.name.toList, Text.isBlankChar c = false := by
  simp [hasBlankName, Text.isBlank, List.all_eq_false]

theorem Tool.endpoint?_isSome_iff (t : Tool) :
    t.endpoint?.isSome = true ↔ ∃ code, t.handlerCode = some code ∧ code ≠ "" := by
  unfold endpoint?
  cases t.handlerCode <;> simp

namespace Project

/-- **Validation is sound and complete**: it finds no problem in a project exactly if the project is
usable. -/
theorem problems_eq_nil_iff_usable (p : Project) : p.validate.problems = [] ↔ p.Usable := by
  have hsplit : p.validate.problems = [] ↔
      (p.tools.map Tool.identifier).Nodup ∧ ∀ t ∈ p.tools, t.Accepted := by
    simp only [validate, List.append_eq_nil_iff, sharedProblems_eq_nil_iff,
      List.flatMap_eq_nil_iff, Tool.problems_eq_nil_iff]
  rw [hsplit]
  constructor
  · rintro ⟨hdistinct, haccepted⟩
    refine ⟨?_, hdistinct, ?_, ?_, ?_⟩
    · intro t ht
      exact t.hasBlankName_eq_false_iff.1 (haccepted t ht).named
    · intro t ht
      have h := haccepted t ht
      exact (Identifier.available_iff _).2 ⟨h.identifier_valid, h.identifier_free⟩
    · intro t ht name hname
      have h := haccepted t ht
      exact (Identifier.available_iff _).2 ⟨h.name_valid name hname, h.name_free name hname⟩
    · intro t ht hapi
      exact t.endpoint?_isSome_iff.1 ((haccepted t ht).endpoint_isSome hapi)
  · intro h
    refine ⟨h.functions_distinct, ?_⟩
    intro t ht
    obtain ⟨hvalid, hfree⟩ := (Identifier.available_iff _).1 (h.function_available t ht)
    have hnames : ∀ name ∈ t.inputSchema.names,
        Identifier.isValid name = true ∧ name ∉ Server.reservedNames := by
      intro name hname
      exact (Identifier.available_iff name).1 (h.parameter_available t ht name hname)
    constructor
    · exact t.hasBlankName_eq_false_iff.2 (h.named t ht)
    · exact hvalid
    · exact hfree
    · intro name hname
      exact (hnames name hname).1
    · intro name hname
      exact (hnames name hname).2
    · intro hapi
      exact t.endpoint?_isSome_iff.2 (h.endpoint_present t ht hapi)

end Project

end ToolScaffold
