import ToolScaffold.Server.Artifacts

/-!
# The source of a server, piece by piece

`source_eq`: the template of a server's source never fails to render, and what it renders is the
header, one block for each tool in the project's order, and the footer. The template is read once
and for all (`parse_template`); what a tool contributes is its `block`, which depends on that tool
alone, and the header looks at the tools only to see whether one of them asks a web address.
-/

namespace ToolScaffold

/-- What texts keep when they are put together, texts with a separator between them keep. -/
theorem intercalate_induction {P : String → Prop} (hempty : P "")
    (happend : ∀ a b, P a → P b → P (a ++ b)) {separator : String} (hsep : P separator)
    {xs : List String} (h : ∀ x ∈ xs, P x) : P (separator.intercalate xs) := by
  induction xs with
  | nil => exact hempty
  | cons x xs ih =>
    cases xs with
    | nil =>
      rw [String.intercalate_singleton]
      exact h x List.mem_cons_self
    | cons y ys =>
      rw [String.intercalate_cons_cons]
      exact happend _ _ (happend _ _ (h x List.mem_cons_self) hsep)
        (ih fun z hz => h z (List.mem_cons_of_mem x hz))

/-! ## The address that a function asks -/

/-- The web address that the function of a tool asks, if it asks one. -/
def Tool.asked? (t : Tool) : Option String := if t.handler = .api then t.endpoint? else none

theorem Tool.isApiCall_eq (t : Tool) : t.isApiCall = t.asked?.isSome := by
  unfold isApiCall asked?
  cases t.handler <;> simp

theorem Tool.asked?_eq_some_iff {t : Tool} {url : String} :
    t.asked? = some url ↔ t.handler = .api ∧ t.handlerCode = some url ∧ url ≠ "" := by
  unfold asked? endpoint?
  cases t.handler with
  | static => simp
  | api => simp [Option.filter_eq_some_iff]

namespace Server

theorem bodyOf_eq (t : Tool) : bodyOf t =
    match t.asked? with
    | some endpoint => apiBody endpoint t.inputSchema
    | none => staticBody t.name := by
  unfold bodyOf Tool.asked?
  cases t.handler with
  | static => rfl
  | api => cases t.endpoint? <;> rfl

open Template

/-! ## The pieces -/

/-- The line that imports the module which asks web addresses, if a tool needs it. -/
def importLine (p : Project) : String :=
  if p.tools.any Tool.isApiCall then "import requests as " ++ requestsName ++ "\n" else ""

/-- The function that fills in placeholders, after its first words. -/
def helperText : String :=
  "(template: str, values: dict) -> str:\n    for key, value in values.items():\n" ++
    "        template = template.replace(" ++ literal "\x7b" ++ " + key + " ++ literal "\x7d" ++
    ", str(value))\n    return template\n"

/-- The function that fills in placeholders behind an empty line, if a tool needs it. -/
def helper (p : Project) : String :=
  if p.tools.any Tool.isApiCall then "\ndef " ++ fillName ++ helperText else ""

/-- What stands before the tools. -/
def header (p : Project) : String :=
  "from mcp.server.fastmcp import FastMCP\n" ++ importLine p ++ "\n" ++ instanceName ++
    " = FastMCP(" ++ literal p.serverName ++ ")\n" ++ helper p

/-- The line that opens the function of a tool. -/
def signature (t : Tool) : String :=
  "def " ++ t.identifier ++ "(" ++ (Function.ofTool t).params ++ ") -> str:"

def statementLine (statement : String) : String := "    " ++ statement ++ "\n"

def bodyText (body : List String) : String := String.join (body.map statementLine)

/-- What a tool contributes to the source. -/
def block (t : Tool) : String :=
  "\n@" ++ instanceName ++ ".tool()\n" ++ signature t ++ "\n" ++
    statementLine (Function.ofTool t).docstring ++ bodyText (Function.ofTool t).body

/-- What stands after the tools. -/
def footer : String :=
  "\nif __name__ == " ++ literal "__main__" ++ ":\n    " ++ instanceName ++ ".run()\n"

/-- The pieces one after the other. -/
def assembled (p : Project) : String := header p ++ String.join (p.tools.map block) ++ footer

/-! ## Reading the template -/

def templateSegments : List Segment := [
  .text "from mcp.server.fastmcp import FastMCP\n".toList,
  .block " if uses_requests ".toList,
  .text "import requests as ".toList,
  .output " requests ".toList,
  .text "\n".toList,
  .block " endif ".toList,
  .text "\n".toList,
  .output " server ".toList,
  .text " = FastMCP(".toList,
  .output " server_name | py_string ".toList,
  .text ")\n".toList,
  .block " if uses_requests ".toList,
  .text "\ndef ".toList,
  .output " helper ".toList,
  .text helperText.toList,
  .block " endif ".toList,
  .block " for tool in tools ".toList,
  .text "\n@".toList,
  .output " server ".toList,
  .text ".tool()\ndef ".toList,
  .output " tool.name | identifier ".toList,
  .text "(".toList,
  .output " tool.params ".toList,
  .text ") -> str:\n    ".toList,
  .output " tool.docstring ".toList,
  .text "\n".toList,
  .block " for line in tool.body ".toList,
  .text "    ".toList,
  .output " line ".toList,
  .text "\n".toList,
  .block " endfor ".toList,
  .block " endfor ".toList,
  .text ("\nif __name__ == " ++ literal "__main__" ++ ":\n    ").toList,
  .output " server ".toList,
  .text ".run()\n".toList]

/-- A variable without attributes and filters. -/
def plain (name : String) : Expr := ⟨name, [], []⟩

def lineNodes : List Node := [
  .text "    ".toList,
  .output (plain "line"),
  .text "\n".toList]

/-- The part that is repeated for each tool. -/
def toolNodes : List Node := [
  .text "\n@".toList,
  .output (plain "server"),
  .text ".tool()\ndef ".toList,
  .output ⟨"tool", ["name"], ["identifier"]⟩,
  .text "(".toList,
  .output ⟨"tool", ["params"], []⟩,
  .text ") -> str:\n    ".toList,
  .output ⟨"tool", ["docstring"], []⟩,
  .text "\n".toList,
  .forEach "line" ⟨"tool", ["body"], []⟩ lineNodes]

/-- The parts of the template. -/
def templateNodes : List Node := [
  .text "from mcp.server.fastmcp import FastMCP\n".toList,
  .ifTrue (plain "uses_requests")
    [.text "import requests as ".toList, .output (plain "requests"), .text "\n".toList] [],
  .text "\n".toList,
  .output (plain "server"),
  .text " = FastMCP(".toList,
  .output ⟨"server_name", [], ["py_string"]⟩,
  .text ")\n".toList,
  .ifTrue (plain "uses_requests")
    [.text "\ndef ".toList, .output (plain "helper"), .text helperText.toList] [],
  .forEach "tool" (plain "tools") toolNodes,
  .text ("\nif __name__ == " ++ literal "__main__" ++ ":\n    ").toList,
  .output (plain "server"),
  .text ".run()\n".toList]

set_option maxRecDepth 4000 in
theorem segmentsFrom_template :
    segmentsFrom (.text [] true) template.toList = some templateSegments := by
  unfold template templateLines hole tag templateSegments helperText literal Json.quote
    Json.stringChars
  simp only [String.toList_join, String.toList_append, List.flatMap_map, List.flatMap_cons,
    List.flatMap_nil]
  -- a literal's characters are looked up one by one, which is slow unless its list is put in
  repeat rw [String.toList_ofList]
  rfl

theorem nodesFrom_templateSegments : nodesFrom ([], []) templateSegments = some templateNodes := by
  simp only [templateSegments, templateNodes, toolNodes, lineNodes]
  rfl

theorem parse_template : Template.parse template = .ok templateNodes := by
  rw [Template.parse, segmentsFrom_template, Option.bind_eq_bind, Option.bind_some,
    nodesFrom_templateSegments]

/-! ## Rendering -/

theorem mapM_eq_pure {m : Type → Type} [Monad m] [LawfulMonad m] {α β : Type} {f : α → m β}
    {g : α → β} {xs : List α} (h : ∀ x ∈ xs, f x = pure (g x)) :
    xs.mapM f = pure (xs.map g) := by
  induction xs with
  | nil => exact List.mapM_nil
  | cons x xs ih =>
    rw [List.mapM_cons, h x List.mem_cons_self, ih fun y hy => h y (List.mem_cons_of_mem x hy),
      pure_bind, pure_bind, List.map_cons]

theorem ok_bind {ε α β : Type} (a : α) (f : α → Except ε β) :
    (Except.ok a >>= f) = f a := rfl

section Scopes

variable (scope : Json.Fields)

theorem eval_plain (name : String) :
    (plain name).eval filters scope = .ok (Entries.get? scope name) := rfl

theorem render_text (chars : List Char) :
    (Node.text chars).render filters scope = .ok chars := by
  rw [Node.render]

theorem render_output {e : Expr} {s : String} (h : e.eval filters scope = .ok (some (.str s))) :
    (Node.output e).render filters scope = .ok s.toList := by
  rw [Node.render, h]
  rfl

theorem renderAll_cons {node : Node} {rest : List Node} {front back : List Char}
    (hfront : node.render filters scope = .ok front)
    (hback : renderAll filters scope rest = .ok back) :
    renderAll filters scope (node :: rest) = .ok (front ++ back) := by
  rw [renderAll, hfront, hback]
  rfl

theorem render_ifTrue {name : String} {b : Bool} {body : List Node} {chars : List Char}
    (hname : Entries.get? scope name = some (.bool b))
    (hbody : renderAll filters scope body = .ok chars) :
    (Node.ifTrue (plain name) body []).render filters scope = .ok (if b then chars else []) := by
  rw [Node.render, eval_plain, hname]
  cases b with
  | true => exact hbody
  | false => rw [renderAll.eq_def]; rfl

theorem render_forEach {each : String} {e : Expr} {body : List Node}
    {α : Type} {f : α → Json} {g : α → List Char} {xs : List α}
    (he : e.eval filters scope = .ok (some (.arr (xs.map f))))
    (hbody : ∀ x ∈ xs, renderAll filters ((each, f x) :: scope) body = .ok (g x)) :
    (Node.forEach each e body).render filters scope = .ok (xs.flatMap g) := by
  have hitems : (xs.map f).mapM (fun item => renderAll filters ((each, item) :: scope) body) =
      .ok (xs.map g) := by
    rw [List.mapM_map]
    exact mapM_eq_pure hbody
  rw [Node.render, he]
  simp only [ok_bind, itemsOf, hitems]
  rw [List.flatMap]
  rfl

theorem renderAll_nil : renderAll filters scope [] = .ok [] := by
  rw [renderAll]

theorem renderAll_lineNodes (statement : String) :
    renderAll filters (("line", .str statement) :: scope) lineNodes =
      .ok (statementLine statement).toList := by
  have hline : (plain "line").eval filters (("line", .str statement) :: scope) =
      .ok (some (.str statement)) := rfl
  rw [lineNodes, renderAll_cons _ (render_text _ _) (renderAll_cons _ (render_output _ hline)
    (renderAll_cons _ (render_text _ _) (renderAll_nil _)))]
  simp only [statementLine, String.toList_append, List.append_assoc, List.append_nil]

theorem renderAll_toolNodes (t : Tool)
    (hserver : Entries.get? scope "server" = some (.str instanceName)) :
    renderAll filters (("tool", (Function.ofTool t).toJson) :: scope) toolNodes =
      .ok (block t).toList := by
  have hserver' : (plain "server").eval filters (("tool", (Function.ofTool t).toJson) :: scope) =
      .ok (some (.str instanceName)) := by
    rw [eval_plain, ← hserver]
    rfl
  have hname : Expr.eval filters (("tool", (Function.ofTool t).toJson) :: scope)
      ⟨"tool", ["name"], ["identifier"]⟩ = .ok (some (.str t.identifier)) := rfl
  have hparams : Expr.eval filters (("tool", (Function.ofTool t).toJson) :: scope)
      ⟨"tool", ["params"], []⟩ = .ok (some (.str (Function.ofTool t).params)) := rfl
  have hdoc : Expr.eval filters (("tool", (Function.ofTool t).toJson) :: scope)
      ⟨"tool", ["docstring"], []⟩ = .ok (some (.str (Function.ofTool t).docstring)) := rfl
  have hbody : Expr.eval filters (("tool", (Function.ofTool t).toJson) :: scope)
      ⟨"tool", ["body"], []⟩ = .ok (some (.arr ((Function.ofTool t).body.map .str))) := rfl
  rw [toolNodes, renderAll_cons _ (render_text _ _) (renderAll_cons _ (render_output _ hserver')
    (renderAll_cons _ (render_text _ _) (renderAll_cons _ (render_output _ hname)
    (renderAll_cons _ (render_text _ _) (renderAll_cons _ (render_output _ hparams)
    (renderAll_cons _ (render_text _ _) (renderAll_cons _ (render_output _ hdoc)
    (renderAll_cons _ (render_text _ _) (renderAll_cons _
      (render_forEach _ hbody fun s _ => renderAll_lineNodes _ s) (renderAll_nil _))))))))))]
  simp [block, bodyText, signature, statementLine, List.flatMap_map]

end Scopes

/-! ## The whole source -/

theorem renderAll_templateNodes (p : Project) :
    renderAll filters (context p) templateNodes = .ok (assembled p).toList := by
  have huses : Entries.get? (context p) "uses_requests" =
      some (.bool (p.tools.any Tool.isApiCall)) := rfl
  have hrequests : (plain "requests").eval filters (context p) =
      .ok (some (.str requestsName)) := rfl
  have hserver : (plain "server").eval filters (context p) = .ok (some (.str instanceName)) := rfl
  have hhelper : (plain "helper").eval filters (context p) = .ok (some (.str fillName)) := rfl
  have hname : Expr.eval filters (context p) ⟨"server_name", [], ["py_string"]⟩ =
      .ok (some (.str (literal p.serverName))) := rfl
  have htools : (plain "tools").eval filters (context p) =
      .ok (some (.arr (p.tools.map fun t => (Function.ofTool t).toJson))) := rfl
  rw [templateNodes, renderAll_cons _ (render_text _ _) (renderAll_cons _
      (render_ifTrue _ huses (renderAll_cons _ (render_text _ _) (renderAll_cons _
        (render_output _ hrequests) (renderAll_cons _ (render_text _ _) (renderAll_nil _)))))
    (renderAll_cons _ (render_text _ _) (renderAll_cons _ (render_output _ hserver)
    (renderAll_cons _ (render_text _ _) (renderAll_cons _ (render_output _ hname)
    (renderAll_cons _ (render_text _ _) (renderAll_cons _
      (render_ifTrue _ huses (renderAll_cons _ (render_text _ _) (renderAll_cons _
        (render_output _ hhelper) (renderAll_cons _ (render_text _ _) (renderAll_nil _)))))
    (renderAll_cons _ (render_forEach _ htools fun t _ => renderAll_toolNodes _ t rfl)
    (renderAll_cons _ (render_text _ _) (renderAll_cons _ (render_output _ hserver)
    (renderAll_cons _ (render_text _ _) (renderAll_nil _))))))))))))]
  unfold assembled header importLine helper footer
  cases huse : p.tools.any Tool.isApiCall with
  | true =>
    simp only [↓reduceIte]
    simp [List.flatMap_map]
  | false =>
    simp only [Bool.false_eq_true, ↓reduceIte]
    simp [List.flatMap_map]

/-- **The source of a server** is its pieces one after the other: rendering never fails. -/
theorem source_eq (p : Project) : source p = .ok (assembled p) := by
  rw [source, parse_template]
  simp only [ok_bind, renderAll_templateNodes]
  exact congrArg Except.ok String.ofList_toList

end Server

/-- A project always becomes its three texts. -/
theorem Project.artifacts_eq (p : Project) :
    p.artifacts = .ok ⟨Server.assembled p, Server.manifest p, Server.readme⟩ := by
  rw [artifacts, Server.source_eq]
  rfl

end ToolScaffold
