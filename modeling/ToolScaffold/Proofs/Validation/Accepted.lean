import ToolScaffold.Validation

/-!
# Tools in which nothing is wrong

`Tool.problems_eq_nil_iff`: no problem is found in a tool exactly if its name is not blank, its
function and its parameters have identifiers for names that the server does not take itself, and
an `api` tool has an endpoint. `Project.tool_accepted`: every tool of a project without problems is
such a tool.
-/

namespace ToolScaffold

/-! ## Identifiers -/

namespace Identifier

variable {name : String} {c : Char}

theorem isPart_of_mem (h : hasForm name.toList = true) (hc : c ∈ name.toList) :
    isPart c = true := by
  cases hname : name.toList with
  | nil => rw [hname] at hc; cases hc
  | cons d rest =>
    rw [hname, hasForm, Bool.and_eq_true] at h
    rw [hname] at hc
    rcases List.mem_cons.1 hc with rfl | hrest
    · rw [isPart, h.1]; rfl
    · exact List.all_eq_true.1 h.2 c hrest

/-- A character that no identifier may go on with does not occur in one. -/
theorem not_mem_of_hasForm (h : hasForm name.toList = true) (hc : isPart c = false) :
    c ∉ name.toList := by
  intro hmem
  rw [isPart_of_mem h hmem] at hc
  cases hc

theorem hasForm_of_isValid (h : isValid name = true) : hasForm name.toList = true := by
  rw [isValid, Bool.and_eq_true] at h
  exact h.1

theorem not_mem_of_isPart_eq_false (h : isValid name = true) (hc : isPart c = false) :
    c ∉ name.toList :=
  not_mem_of_hasForm (hasForm_of_isValid h) hc

end Identifier

/-! ## Tools -/

/-- A tool in which nothing is wrong. -/
structure Tool.Accepted (t : Tool) : Prop where
  named : t.hasBlankName = false
  identifier_valid : Identifier.isValid t.identifier = true
  identifier_free : t.identifier ∉ Server.reservedNames
  name_valid : ∀ name ∈ t.inputSchema.names, Identifier.isValid name = true
  name_free : ∀ name ∈ t.inputSchema.names, name ∉ Server.reservedNames
  endpoint_isSome : t.handler = .api → t.endpoint?.isSome = true

namespace Tool

theorem functionProblems_eq_nil_iff (t : Tool) : t.functionProblems = [] ↔
    Identifier.isValid t.identifier = true ∧ t.identifier ∉ Server.reservedNames := by
  unfold functionProblems
  by_cases hvalid : Identifier.isValid t.identifier = true
  · by_cases hfree : t.identifier ∈ Server.reservedNames <;> simp [hvalid, hfree]
  · simp [hvalid]

theorem parameterProblem?_eq_none_iff (t : Tool) (name : String) :
    t.parameterProblem? name = none ↔
      Identifier.isValid name = true ∧ name ∉ Server.reservedNames := by
  unfold parameterProblem?
  by_cases hvalid : Identifier.isValid name = true
  · by_cases hfree : name ∈ Server.reservedNames <;> simp [hvalid, hfree]
  · simp [hvalid]

theorem endpointProblems_eq_nil_iff (t : Tool) : t.endpointProblems = [] ↔
    (t.handler = .api → t.endpoint?.isSome = true) := by
  unfold endpointProblems
  cases t.endpoint? <;> simp

/-- **No problem is found in a tool** exactly if nothing is wrong in it. -/
theorem problems_eq_nil_iff (t : Tool) : t.problems = [] ↔ t.Accepted := by
  unfold problems
  cases hname : t.hasBlankName with
  | true =>
    constructor
    · intro h; cases h
    · intro h; rw [h.named] at hname; cases hname
  | false =>
    simp only [Bool.false_eq_true, ↓reduceIte, List.append_eq_nil_iff, functionProblems_eq_nil_iff,
      List.filterMap_eq_nil_iff, parameterProblem?_eq_none_iff, endpointProblems_eq_nil_iff]
    constructor
    · rintro ⟨⟨⟨hvalid, hfree⟩, hnames⟩, hend⟩
      exact ⟨hname, hvalid, hfree, fun n hn => (hnames n hn).1, fun n hn => (hnames n hn).2, hend⟩
    · intro h
      exact ⟨⟨⟨h.identifier_valid, h.identifier_free⟩,
        fun n hn => ⟨h.name_valid n hn, h.name_free n hn⟩⟩, h.endpoint_isSome⟩

theorem Accepted.parameter_valid {t : Tool} (ht : t.Accepted) :
    ∀ p ∈ t.inputSchema.parameters, Identifier.isValid p.name = true := by
  intro p hp
  obtain ⟨entry, hentry, rfl⟩ := List.mem_map.1 hp
  exact ht.name_valid entry.1 (List.mem_map_of_mem hentry)

end Tool

/-! ## Projects -/

/-- **Every tool of a project without problems** is one in which nothing is wrong. -/
theorem Project.tool_accepted {p : Project} (h : p.validate.problems = []) {t : Tool}
    (ht : t ∈ p.tools) : t.Accepted := by
  have hall : p.tools.flatMap Tool.problems = [] := (List.append_eq_nil_iff.1 h).2
  exact t.problems_eq_nil_iff.1 (List.flatMap_eq_nil_iff.1 hall t ht)

end ToolScaffold
