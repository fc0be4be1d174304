import ToolScaffold.Proofs.Server.Assembly
import ToolScaffold.Proofs.Server.Lexeme
import ToolScaffold.Proofs.Server.Literal

/-!
# The source of a server, line by line

`artifacts_laidOut`: the source of every project's server, accepted or not, is put together from
lines: those of the header, those of one block for each tool, and those of the footer. A block
depends on its tool alone and begins with its one empty line. The header imports the module that
asks web addresses, and defines the function that fills in placeholders, exactly if the body of some
tool calls that function.

Whether a body calls it is read off the statements themselves (`CallsHelper`), not off the test that
the template relies on; `exists_callsHelper_iff` says that the two agree. A tool's name may spell
such a call, but it only gets as far as the inside of a literal (`not_callsHelper_return`).
-/

namespace ToolScaffold.Server

/-! ## The lines -/

/-- Lines one after the other, each ended by a line break. -/
def textOf (lines : List String) : String := String.join (lines.map (· ++ "\n"))

def requestsLine : String := "import requests as _requests"

/-- The function that fills in placeholders. -/
def helperLines : List String := [
  "def _fill_placeholders(template: str, values: dict) -> str:",
  "    for key, value in values.items():",
  "        template = template.replace(\"\x7b\" + key + \"\x7d\", str(value))",
  "    return template"]

def headerLines (serverName : String) (calls : Bool) : List String :=
  ["from mcp.server.fastmcp import FastMCP"] ++ (if calls then [requestsLine] else []) ++
    ["", "mcp = FastMCP(" ++ literal serverName ++ ")"] ++
    if calls then "" :: helperLines else []

/-- The line that opens the function of a tool. -/
def defLine (t : Tool) : String :=
  "def " ++ Identifier.derive t.name ++ "(" ++
    ", ".intercalate (t.inputSchema.parameters.map Parameter.declaration) ++ ") -> str:"

/-- The lines of a tool. The documentation text may go on over further ones. -/
def blockLines (t : Tool) : List String :=
  ["", "@mcp.tool()"] ++ [defLine t] ++
    ["    " ++ docstringOf t.description t.inputSchema.parameters] ++ (bodyOf t).map ("    " ++ ·)

def footerLines : List String := ["", "if __name__ == \"__main__\":", "    mcp.run()"]

/-- The statement calls the function that fills in placeholders: its name stands there with an
opening bracket, and not inside of a literal. -/
def CallsHelper (statement : String) : Prop :=
  ∃ front rest, statement.toList = front ++ ("_fill_placeholders(".toList ++ rest) ∧
    (Lexeme.scan front).isSome = true

/-- The source consists of the lines of its parts; it calls the function that fills in placeholders
or not. -/
structure LaidOut (p : Project) (calls : Bool) (source : String) : Prop where
  source_eq : source =
    textOf (headerLines p.serverName calls ++ p.tools.flatMap blockLines ++ footerLines)
  calls_iff : calls = true ↔ ∃ t ∈ p.tools, ∃ statement ∈ bodyOf t, CallsHelper statement
  requestsLine_mem_iff : requestsLine ∈ headerLines p.serverName calls ↔ calls = true
  helperLines_infix_iff : helperLines <:+: headerLines p.serverName calls ↔ calls = true
  newline_not_mem : ∀ line ∈ headerLines p.serverName calls, '\n' ∉ line.toList
  /-- The only empty line of a block is its first one. -/
  block_eq : ∀ t ∈ p.tools, ∃ lines, blockLines t = "" :: lines ∧ "" ∉ lines
  /-- The source ends with a single line break. -/
  ends_once : ∃ front c, source.toList = front ++ [c, '\n'] ∧ c ≠ '\n'

/-! ## Texts of lines -/

theorem textOf_append (a b : List String) : textOf (a ++ b) = textOf a ++ textOf b := by
  rw [textOf, List.map_append, String.join_append]
  rfl

theorem textOf_flatMap {α : Type} (f : α → List String) (xs : List α) :
    textOf (xs.flatMap f) = String.join (xs.map fun x => textOf (f x)) := by
  induction xs with
  | nil => rfl
  | cons x xs ih => rw [List.flatMap_cons, textOf_append, ih, List.map_cons, String.join_cons]

theorem textOf_singleton (line : String) : textOf [line] = line ++ "\n" := by
  rw [textOf, List.map_singleton, String.join_cons, String.join_nil, String.append_empty]

theorem textOf_nil : textOf [] = "" := rfl

theorem textOf_requestsLine :
    textOf [requestsLine] = "import requests as " ++ requestsName ++ "\n" := by decide +kernel

theorem textOf_helperLines :
    textOf ("" :: helperLines) = "\ndef " ++ fillName ++ helperText := by decide +kernel

theorem textOf_instance (serverName : String) :
    textOf ["", "mcp = FastMCP(" ++ literal serverName ++ ")"] =
      "\n" ++ instanceName ++ " = FastMCP(" ++ literal serverName ++ ")\n" := by
  rw [← String.toList_inj]
  simp [textOf, instanceName]

theorem textOf_headerLines (p : Project) :
    textOf (headerLines p.serverName (p.tools.any Tool.isApiCall)) = header p := by
  have hfirst : textOf ["from mcp.server.fastmcp import FastMCP"] =
      "from mcp.server.fastmcp import FastMCP\n" := by decide +kernel
  have himport : textOf (if p.tools.any Tool.isApiCall then [requestsLine] else []) =
      importLine p := by
    rw [apply_ite textOf, textOf_requestsLine, textOf_nil]
    rfl
  have hhelper : textOf (if p.tools.any Tool.isApiCall then "" :: helperLines else []) =
      helper p := by
    rw [apply_ite textOf, textOf_helperLines, textOf_nil]
    rfl
  rw [headerLines, textOf_append, textOf_append, textOf_append, hfirst, himport, hhelper,
    textOf_instance]
  unfold header
  simp only [String.append_assoc]

theorem textOf_statements (body : List String) :
    textOf (body.map ("    " ++ ·)) = bodyText body := by
  rw [textOf, List.map_map]
  rfl

theorem textOf_blockLines (t : Tool) : textOf (blockLines t) = block t := by
  have hdecorator : textOf ["", "@mcp.tool()"] = "\n@" ++ instanceName ++ ".tool()\n" := by
    decide +kernel
  rw [blockLines, textOf_append, textOf_append, textOf_append, hdecorator, textOf_singleton,
    textOf_singleton, textOf_statements]
  simp only [block, Function.ofTool, statementLine, String.append_assoc]
  rfl

theorem textOf_footerLines : textOf footerLines = footer := by decide +kernel

/-! ## Calls -/

theorem CallsHelper.append {statement : String} (h : CallsHelper statement) (more : String) :
    CallsHelper (statement ++ more) := by
  obtain ⟨front, rest, hsplit, hscan⟩ := h
  refine ⟨front, rest ++ more.toList, ?_, hscan⟩
  rw [String.toList_append, hsplit, List.append_assoc, List.append_assoc]

theorem callsHelper_fill : CallsHelper ("url = " ++ fillName ++ "(") := by
  refine ⟨"url = ".toList, [], by decide +kernel, ?_⟩
  have hcode := Lexeme.scan_unquoted (show '"' ∉ "url = ".toList by decide) []
  rw [List.append_nil, Lexeme.scan] at hcode
  rw [hcode]
  rfl

/-- A text that is returned calls nothing, whatever it says. -/
theorem not_callsHelper_return (text : String) : ¬CallsHelper ("return " ++ literal text) := by
  rintro ⟨front, rest, hsplit, hscan⟩
  have hchars : ("return " ++ literal text).toList =
      "return ".toList ++ '"' :: (Json.escape text.toList ++ ['"']) := by
    simp [literal, Json.quote, Json.stringChars]
  rw [hchars] at hsplit
  rcases List.append_eq_append_iff.1 hsplit with ⟨inner, rfl, htail⟩ | ⟨back, hreturn, htail⟩
  · -- the name stands behind the word
    cases inner with
    | nil => cases htail
    | cons c inner =>
      obtain ⟨rfl, hinner⟩ := List.cons.inj htail
      rcases List.append_eq_append_iff.1 hinner with ⟨long, -, hquote⟩ | ⟨back, hescape, -⟩
      · -- behind the text there is only the last double quote
        have hlength := congrArg List.length hquote
        simp at hlength
        omega
      · -- the name stands in the literal
        have hopen := Lexeme.scan_eq_none (hescape ▸ Lexeme.inert_escape text.toList)
        rw [Lexeme.scan_unquoted (by decide), hopen] at hscan
        cases hscan
  · -- the name begins in the word
    cases back with
    | nil => cases htail
    | cons c back =>
      have hc : c ∈ "return ".toList := hreturn ▸ List.mem_append_right front List.mem_cons_self
      obtain ⟨rfl, -⟩ := List.cons.inj htail
      exact absurd hc (by decide)

theorem exists_callsHelper_iff (t : Tool) :
    (∃ statement ∈ bodyOf t, CallsHelper statement) ↔ t.isApiCall = true := by
  rw [Tool.isApiCall_eq, bodyOf_eq]
  cases t.asked? with
  | none =>
    rw [staticBody]
    simp [not_callsHelper_return]
  | some endpoint =>
    refine iff_of_true ⟨_, List.mem_cons_self, ?_⟩ rfl
    exact (((callsHelper_fill.append _).append _).append _).append _

/-! ## The header -/

section Header

variable (serverName : String)

theorem headerLines_true : headerLines serverName true =
    ["from mcp.server.fastmcp import FastMCP", requestsLine, "",
      "mcp = FastMCP(" ++ literal serverName ++ ")", ""] ++ helperLines := rfl

theorem headerLines_false : headerLines serverName false =
    ["from mcp.server.fastmcp import FastMCP", "", "mcp = FastMCP(" ++ literal serverName ++ ")"] :=
  rfl

theorem requestsLine_mem_headerLines_iff (calls : Bool) :
    requestsLine ∈ headerLines serverName calls ↔ calls = true := by
  cases calls with
  | true => exact iff_of_true (.tail _ (.head _)) rfl
  | false =>
    have hinstance : requestsLine ≠ "mcp = FastMCP(" ++ literal serverName ++ ")" := by
      intro heq
      have hhead := congrArg (fun line => line.toList.head?) heq
      simp [requestsLine] at hhead
    have hfrom : requestsLine ≠ "from mcp.server.fastmcp import FastMCP" := by decide
    have hempty : requestsLine ≠ "" := by decide
    simp [headerLines_false, hfrom, hempty, hinstance]

theorem helperLines_infix_headerLines_iff (calls : Bool) :
    helperLines <:+: headerLines serverName calls ↔ calls = true := by
  cases calls with
  | true =>
    rw [headerLines_true]
    exact iff_of_true (List.suffix_append _ _).isInfix rfl
  | false =>
    refine iff_of_false (fun h => ?_) (by decide)
    have hlength := h.length_le
    rw [headerLines_false] at hlength
    simp [helperLines] at hlength

theorem newline_not_mem_headerLines (calls : Bool) :
    ∀ line ∈ headerLines serverName calls, '\n' ∉ line.toList := by
  have hliteral := newline_not_mem_literal serverName
  cases calls with
  | true =>
    have hhelper : ∀ line ∈ helperLines, '\n' ∉ line.toList := by decide
    rw [headerLines_true]
    refine List.forall_mem_append.2 ⟨?_, hhelper⟩
    simp [requestsLine, hliteral]
  | false =>
    rw [headerLines_false]
    simp [hliteral]

end Header

/-! ## The source -/

theorem blockLines_eq (t : Tool) : ∃ lines, blockLines t = "" :: lines ∧ "" ∉ lines := by
  refine ⟨_, rfl, ?_⟩
  simp [defLine]

theorem assembled_eq_textOf (p : Project) : assembled p =
    textOf (headerLines p.serverName (p.tools.any Tool.isApiCall) ++ p.tools.flatMap blockLines ++
      footerLines) := by
  rw [textOf_append, textOf_append, textOf_headerLines, textOf_flatMap, textOf_footerLines]
  simp only [textOf_blockLines]
  rfl

theorem ends_assembled (p : Project) :
    ∃ front c, (assembled p).toList = front ++ [c, '\n'] ∧ c ≠ '\n' := by
  obtain ⟨front, hfooter⟩ : ∃ front, footer.toList = front ++ [')', '\n'] :=
    ⟨footer.toList.dropLast.dropLast, by decide +kernel⟩
  refine ⟨(header p ++ String.join (p.tools.map block)).toList ++ front, ')', ?_, by decide⟩
  unfold assembled
  rw [String.toList_append, hfooter, List.append_assoc]

/-- **The source of a server is laid out** line by line as its tools ask for, whatever texts the
project holds. -/
theorem artifacts_laidOut (p : Project) :
    ∃ artifacts calls, p.artifacts = .ok artifacts ∧ LaidOut p calls artifacts.source := by
  refine ⟨_, p.tools.any Tool.isApiCall, p.artifacts_eq, ?_⟩
  constructor
  case source_eq => exact assembled_eq_textOf p
  case calls_iff =>
    rw [List.any_eq_true]
    simp only [exists_callsHelper_iff]
  case requestsLine_mem_iff => exact requestsLine_mem_headerLines_iff _ _
  case helperLines_infix_iff => exact helperLines_infix_headerLines_iff _ _
  case newline_not_mem => exact newline_not_mem_headerLines _ _
  case block_eq => exact fun t _ => blockLines_eq t
  case ends_once => exact ends_assembled p

end ToolScaffold.Server
