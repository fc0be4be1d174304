import ToolScaffold.Proofs.Distinct
import ToolScaffold.Proofs.Validation.Usable

/-!
# The messages about a project

`Project.reported`: what the messages about the problems of a project are, and in which order they
come. First come the names that are used more than once, each once, by the place of its second use
(`listed_repeatedNames`). Then come the functions that tools of different names share, by the first
tool of the function, each with these names in order (`collisions_shared`). The messages about the
tools by themselves follow, tool by tool, and what they are depends on the tool alone.
-/

namespace ToolScaffold

/-! ## Repeated names -/

theorem recurring_concat (seen names : List String) (name : String) :
    recurring seen (names ++ [name]) =
      recurring seen names ++ if name ∈ seen ∨ name ∈ names then [name] else [] := by
  induction names generalizing seen with
  | nil => by_cases h : name ∈ seen <;> simp [recurring, h]
  | cons other rest ih =>
    rw [List.cons_append, recurring, recurring]
    by_cases hother : other ∈ seen
    · -- a name that was seen before is seen whether or not it is `other`
      have hmem : (name ∈ seen ∨ name ∈ other :: rest) ↔ (name ∈ seen ∨ name ∈ rest) := by
        rw [List.mem_cons]
        constructor
        · rintro (h | rfl | h)
          · exact .inl h
          · exact .inl hother
          · exact .inr h
        · exact Or.imp_right .inr
      rw [if_congr hmem rfl rfl]
      simp [hother, ih]
    · have hmem : (name ∈ seen ∨ name ∈ other :: rest) ↔ (name ∈ other :: seen ∨ name ∈ rest) := by
        simp only [List.mem_cons, or_assoc, or_left_comm]
      rw [if_congr hmem rfl rfl]
      simp [hother, ih]

/-- **A new last name** is listed if it is the second one of its kind. -/
theorem repeatedNames_concat {names : List String} (h : Listed 1 names (repeatedNames names))
    (name : String) : repeatedNames (names ++ [name]) =
      repeatedNames names ++ if names.count name = 1 then [name] else [] := by
  have hmem : name ∈ recurring [] names ↔ 1 < names.count name := by
    rw [← h.mem_iff, repeatedNames, mem_distinct]
  rw [repeatedNames, recurring_concat]
  by_cases hname : name ∈ names
  · have hpos : 0 < names.count name := List.count_pos_iff.2 hname
    rw [if_pos (.inr hname), distinct_concat, repeatedNames]
    by_cases hone : names.count name = 1
    · have hfresh : name ∉ recurring [] names := by
        rw [hmem, hone]
        exact Nat.lt_irrefl 1
      rw [if_pos hone, if_neg hfresh]
    · have hlisted : name ∈ recurring [] names := hmem.2 (by omega)
      rw [if_neg hone, if_pos hlisted]
  · have hzero : names.count name = 0 := List.count_eq_zero.2 hname
    rw [if_neg (by simp [hname]), List.append_nil, hzero, if_neg (by decide), List.append_nil,
      repeatedNames]

/-- **The repeated names** are listed by their second occurrence. -/
theorem listed_repeatedNames (names : List String) : Listed 1 names (repeatedNames names) := by
  induction names using List.reverseRecOn with
  | nil => exact .nil 1
  | append_singleton names name ih =>
    rw [repeatedNames_concat ih]
    exact ih.concat name

example : repeatedNames ["b", "a", "a", "c", "b", "a"] = ["a", "b"] := by decide

/-! ## Shared functions -/

/-- The names of the tools that have a function of this name. -/
def namesOf (tools : List Tool) (identifier : String) : List String :=
  (tools.filter fun t => t.identifier = identifier).map Tool.name

/-- The functions that tools of different names share, with these names. -/
structure Collisions (tools : List Tool) (shared : List (String × List String)) : Prop where
  nodup : (shared.map Prod.fst).Nodup
  mem_iff : ∀ identifier, identifier ∈ shared.map Prod.fst ↔
    ∃ t ∈ tools, ∃ u ∈ tools, t.identifier = identifier ∧ u.identifier = identifier ∧
      t.name ≠ u.name
  /-- The first tools of the functions come in this order. -/
  ordered : (shared.map Prod.fst).Pairwise fun a b =>
    ∃ i j, OccursAt 0 (tools.map Tool.identifier) a i ∧
      OccursAt 0 (tools.map Tool.identifier) b j ∧ i < j
  /-- All names of the function are listed by the first tool of the name. -/
  names_listed : ∀ entry ∈ shared, Listed 0 (namesOf tools entry.1) entry.2

/-- The functions that validation finds shared, with the names that it states. -/
def sharedFunctions (tools : List Tool) : List (String × List String) :=
  ((distinct (tools.map Tool.identifier)).filter fun identifier =>
    1 < (namesGiving tools identifier).length).map fun identifier =>
      (identifier, namesGiving tools identifier)

section Shared

variable (tools : List Tool)

theorem filterMap_sharedProblem? :
    (distinct (tools.map Tool.identifier)).filterMap (sharedProblem? tools) =
      (sharedFunctions tools).map fun entry => .sharedFunction entry.1 entry.2 := by
  rw [sharedFunctions]
  induction distinct (tools.map Tool.identifier) with
  | nil => rfl
  | cons identifier rest ih =>
    by_cases h : 1 < (namesGiving tools identifier).length
    · have hsome : sharedProblem? tools identifier =
          some (.sharedFunction identifier (namesGiving tools identifier)) := if_pos h
      rw [List.filterMap_cons_some hsome, List.filter_cons, if_pos (decide_eq_true h), ih]
      rfl
    · have hnone : sharedProblem? tools identifier = none := if_neg h
      rw [List.filterMap_cons_none hnone, List.filter_cons, if_neg (by simpa using h), ih]

theorem map_fst_sharedFunctions :
    (sharedFunctions tools).map Prod.fst =
      (distinct (tools.map Tool.identifier)).filter fun identifier =>
        1 < (namesGiving tools identifier).length := by
  rw [sharedFunctions, List.map_map]
  exact List.map_id _

/-- A function has several names exactly if two of its tools have different ones. -/
theorem one_lt_length_namesGiving_iff (identifier : String) :
    1 < (namesGiving tools identifier).length ↔
      ∃ t ∈ tools, ∃ u ∈ tools, t.identifier = identifier ∧ u.identifier = identifier ∧
        t.name ≠ u.name := by
  rw [← Nat.not_le, namesGiving, length_distinct_le_one_iff]
  simp only [mem_named_iff]
  constructor
  · intro h
    by_contra hsame
    refine h ?_
    rintro _ ⟨t, ht, htid, rfl⟩ _ ⟨u, hu, huid, rfl⟩
    by_contra hne
    exact hsame ⟨t, ht, u, hu, htid, huid, hne⟩
  · rintro ⟨t, ht, u, hu, htid, huid, hne⟩ hsame
    exact hne (hsame t.name ⟨t, ht, htid, rfl⟩ u.name ⟨u, hu, huid, rfl⟩)

/-- **The shared functions** that validation finds are all there are. -/
theorem collisions_shared : Collisions tools (sharedFunctions tools) where
  nodup := by
    rw [map_fst_sharedFunctions]
    exact (listed_distinct _).nodup.filter _
  mem_iff identifier := by
    rw [map_fst_sharedFunctions, List.mem_filter, decide_eq_true_eq,
      one_lt_length_namesGiving_iff, mem_distinct]
    constructor
    · exact And.right
    · rintro ⟨t, ht, u, hu, rfl, huid, hne⟩
      exact ⟨List.mem_map_of_mem ht, t, ht, u, hu, rfl, huid, hne⟩
  ordered := by
    rw [map_fst_sharedFunctions]
    exact (listed_distinct _).ordered.filter _
  names_listed entry hentry := by
    obtain ⟨identifier, -, rfl⟩ := List.mem_map.1 hentry
    exact listed_distinct _

end Shared

/-! ## All messages -/

/-- **The messages about a project** are one for each repeated name, one for each shared function,
and those about each tool by itself. -/
theorem Project.reported (p : Project) : ∃ repeated shared,
    Listed 1 (p.tools.map Tool.name) repeated ∧ Collisions p.tools shared ∧
      p.validate.problems.map Problem.message =
        (repeated.map fun name => "Duplicate tool name: " ++ name) ++
          (shared.map fun entry => "Tools " ++
            ", ".intercalate (entry.2.map fun name => "'" ++ name ++ "'") ++
            " all generate the function name " ++ ("'" ++ entry.1 ++ "'")) ++
          p.tools.flatMap fun t => t.problems.map Problem.message := by
  refine ⟨repeatedNames (p.tools.map Tool.name), sharedFunctions p.tools,
    listed_repeatedNames _, collisions_shared p.tools, ?_⟩
  have hproblems : p.validate.problems =
      (repeatedNames (p.tools.map Tool.name)).map .repeatedName ++
        (sharedFunctions p.tools).map (fun entry => .sharedFunction entry.1 entry.2) ++
        p.tools.flatMap Tool.problems := by
    rw [validate, sharedProblems, filterMap_sharedProblem?]
  rw [hproblems, List.map_append, List.map_append, List.map_map, List.map_map, List.map_flatMap]
  rfl

end ToolScaffold
