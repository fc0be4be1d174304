import ToolScaffold.Proofs.Server.Signature
import ToolScaffold.Proofs.Text.LowerCase

/-!
# Functions that take a name of the module

A generated module reads names of its own: the class of servers, the server, the module that asks
web addresses, the function that fills in placeholders, the name under which it runs, and the types
of annotations. A tool's function is defined at the same level, so a function of one of these names
takes it from all that reads it later.

Validation keeps some of them free: those that the server defines are reserved, and no function has
the name of the class, as the names of functions are lower case. `function_mem_moduleNames_iff`: the
names that a function can still take are the `unguardedNames`, and each of them is taken by a
function of some project without problems (`exists_function_iff`).
-/

namespace ToolScaffold

/-- The types of parameters. -/
def ParamType.all : List ParamType := [text, float, int, bool, list, map]

theorem Identifier.isUpper_derive (name : String) : ∀ c ∈ (derive name).toList, c.isUpper = false :=
  Text.isUpper_lower _

namespace Server

def className : String := "FastMCP"

/-- The name under which the module runs. -/
def runName : String := "__name__"

/-- The names that the module reads at its own level, in annotations, and in the function that fills
in placeholders. -/
def moduleNames : List String :=
  [className, instanceName, requestsName, fillName, runName] ++
    ParamType.all.map ParamType.annotation

/-- The names among them that nothing keeps free. -/
def unguardedNames : List String := runName :: ParamType.all.map ParamType.annotation

theorem mem_moduleNames_iff (name : String) :
    name ∈ moduleNames ↔ name = className ∨ name ∈ reservedNames ∨ name ∈ unguardedNames := by
  simp only [moduleNames, reservedNames, unguardedNames, List.mem_append, List.mem_cons,
    List.not_mem_nil, or_false, or_assoc]

/-- No function has the name of the class. -/
theorem identifier_ne_className (t : Tool) : t.identifier ≠ className := by
  intro heq
  have hcapital : 'F' ∈ t.identifier.toList := by
    rw [heq]
    decide
  have hlower := Identifier.isUpper_derive t.name 'F' hcapital
  cases hlower

theorem identifier_mem_moduleNames_iff {t : Tool} (ht : t.Accepted) :
    t.identifier ∈ moduleNames ↔ t.identifier ∈ unguardedNames := by
  rw [mem_moduleNames_iff]
  constructor
  · rintro (hclass | hreserved | hunguarded)
    · exact absurd hclass (identifier_ne_className t)
    · exact absurd hreserved ht.identifier_free
    · exact hunguarded
  · intro hunguarded
    exact .inr (.inr hunguarded)

/-- **The functions of a project without problems**: the line that opens the function of a tool
stands in the source, and the function takes a name that the module reads exactly if this is one of
the names that nothing keeps free. -/
theorem function_mem_moduleNames_iff {p : Project} (hp : p.validate.problems = []) {t : Tool}
    (ht : t ∈ p.tools) :
    ∃ before after s, source p =
        .ok (before ++ "\n@" ++ instanceName ++ ".tool()\n" ++ signature t ++ "\n" ++ after) ∧
      Signature.read? (signature t).toList = some s ∧
      (s.function ∈ moduleNames ↔ s.function ∈ unguardedNames) := by
  have haccepted := Project.tool_accepted hp ht
  obtain ⟨before, after, hsource⟩ := signature_emitted ht
  exact ⟨before, after, signatureOf t, hsource, read_signature haccepted,
    identifier_mem_moduleNames_iff haccepted⟩

def projectOf (name : String) : Project := ⟨name, [.ofName name .static]⟩

theorem projectOf_lookup_function : (projectOf "lookup").validate.problems = [] ∧
    Tool.ofName "lookup" .static ∈ (projectOf "lookup").tools ∧
    ∃ before after s, source (projectOf "lookup") = .ok (before ++ "\n@" ++ instanceName ++
        ".tool()\n" ++ signature (.ofName "lookup" .static) ++ "\n" ++ after) ∧
      Signature.read? (signature (.ofName "lookup" .static)).toList = some s ∧
      (s.function ∈ moduleNames ↔ s.function ∈ unguardedNames) := by
  have hp : (projectOf "lookup").validate.problems = [] := by decide +kernel
  have ht : Tool.ofName "lookup" .static ∈ (projectOf "lookup").tools := List.mem_cons_self
  exact ⟨hp, ht, function_mem_moduleNames_iff hp ht⟩

/-- The name of a tool alone makes its function take each of the names. -/
theorem projectOf_accepted : ∀ name ∈ unguardedNames, (projectOf name).validate.problems = [] ∧
    Identifier.derive name = name := by decide +kernel

/-- The names that functions of projects without problems can take from the module. -/
theorem exists_function_iff (name : String) :
    (name ∈ moduleNames ∧ ∃ p : Project, p.validate.problems = [] ∧ ∃ t ∈ p.tools,
      t.identifier = name) ↔ name ∈ unguardedNames := by
  constructor
  · rintro ⟨hname, p, hp, t, ht, rfl⟩
    exact (identifier_mem_moduleNames_iff (Project.tool_accepted hp ht)).1 hname
  · intro hname
    obtain ⟨hp, hderive⟩ := projectOf_accepted name hname
    exact ⟨(mem_moduleNames_iff name).2 (.inr (.inr hname)), projectOf name, hp,
      Tool.ofName name .static, List.mem_cons_self, hderive⟩

/-- A tool takes the name of the type of texts, which the annotations of later functions read. -/
theorem projectOf_str_function : (projectOf "str").validate.problems = [] ∧
    ∃ t ∈ (projectOf "str").tools, ∃ s, Signature.read? (signature t).toList = some s ∧
      s.function ∈ moduleNames := by
  have hp : (projectOf "str").validate.problems = [] := by decide +kernel
  have ht : Tool.ofName "str" .static ∈ (projectOf "str").tools := List.mem_cons_self
  exact ⟨hp, _, ht, _, read_signature (Project.tool_accepted hp ht), by decide +kernel⟩

end Server

end ToolScaffold
