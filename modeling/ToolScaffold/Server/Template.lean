import ToolScaffold.Server.Function
import ToolScaffold.Template.Parser

/-!
# The source of the generated server

The template of the source, the filters that it uses, and its context. A blank line separates the
parts; the module that asks web addresses and the function that fills in placeholders appear only
if a function needs them.
-/

namespace ToolScaffold.Server

/-- The filters that templates of sources may use. -/
def filters : Template.Filters :=
  [("py_string", literal), ("py_docstring_text", docText), ("identifier", Identifier.derive)]

/-- A hole for a value. -/
def hole (e : String) : String := "\x7b\x7b " ++ e ++ " \x7d\x7d"

/-- A block tag. -/
def tag (inside : String) : String := "\x7b% " ++ inside ++ " %\x7d"

/-- The lines of the template. -/
def templateLines : List String := [
  "from mcp.server.fastmcp import FastMCP",
  tag "if uses_requests",
  "import requests as " ++ hole "requests",
  tag "endif",
  "",
  hole "server" ++ " = FastMCP(" ++ hole "server_name | py_string" ++ ")",
  tag "if uses_requests",
  "",
  "def " ++ hole "helper" ++ "(template: str, values: dict) -> str:",
  "    for key, value in values.items():",
  "        template = template.replace(\"\x7b\" + key + \"\x7d\", str(value))",
  "    return template",
  tag "endif",
  tag "for tool in tools",
  "",
  "@" ++ hole "server" ++ ".tool()",
  "def " ++ hole "tool.name | identifier" ++ "(" ++ hole "tool.params" ++ ") -> str:",
  "    " ++ hole "tool.docstring",
  tag "for line in tool.body",
  "    " ++ hole "line",
  tag "endfor",
  tag "endfor",
  "",
  "if __name__ == \"__main__\":",
  "    " ++ hole "server" ++ ".run()"]

/-- The template of a server's source; every line ends with a line break. -/
def template : String := String.join (templateLines.map (· ++ "\n"))

end ToolScaffold.Server
