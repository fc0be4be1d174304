import ToolScaffold.Server.Template
import ToolScaffold.Text.Blank

/-!
# Artifacts

The three texts that a project becomes: the source of the server, a manifest of its tools, and
instructions. They depend on the project alone.
-/

namespace ToolScaffold

/-- What stands for a blank server name. -/
def Server.defaultName : String := "My MCP Server"

def Project.serverName (p : Project) : String :=
  let name := Text.trim p.name
  if name = "" then Server.defaultName else name

namespace Server

/-- The version that every manifest states. -/
def manifestVersion : String := "1.0.0"

def manifestJson (p : Project) : Json :=
  .obj [("name", .str p.serverName), ("version", .str manifestVersion),
    ("tools", .arr (p.tools.map Tool.toJson))]

def manifest (p : Project) : String := (manifestJson p).indented

/-- The instructions, the same for every project. -/
def readme : String := "\n".intercalate [
  "# Generated MCP Server",
  "",
  "## Running the server",
  "",
  "1. Install dependencies:",
  "   ```bash",
  "   pip install mcp requests",
  "   ```",
  "",
  "2. Run the server:",
  "   ```bash",
  "   python server.py",
  "   ```",
  ""]

/-- The values that the template of a project's source is filled with. -/
def context (p : Project) : Json.Fields :=
  [("server_name", .str p.serverName),
    ("uses_requests", .bool (p.tools.any Tool.isApiCall)),
    ("helper", .str fillName),
    ("requests", .str requestsName),
    ("server", .str instanceName),
    ("tools", .arr (p.tools.map fun t => (Function.ofTool t).toJson))]

def source (p : Project) : Except Template.Fault String := do
  let nodes ← Template.parse template
  return String.ofList (← Template.renderAll filters (context p) nodes)

end Server

/-- The three texts that a project becomes. -/
structure Artifacts where
  source : String
  manifest : String
  readme : String
  deriving DecidableEq, Repr

def Project.artifacts (p : Project) : Except Template.Fault Artifacts := do
  return ⟨← Server.source p, Server.manifest p, Server.readme⟩

end ToolScaffold
