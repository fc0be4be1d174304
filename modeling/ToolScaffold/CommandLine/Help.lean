import ToolScaffold.CommandLine.Grammar

/-!
# Help texts
-/

namespace ToolScaffold.CommandLine

def textOfLines (lines : List String) : String := String.join (lines.map (· ++ "\n"))

/-- The help of the program, to the last line but for its end. -/
def mainHelpLines : List String := [
  "toolsmith: MCP server scaffold generator",
  "",
  "Usage: toolsmith [OPTIONS] <COMMAND>",
  "",
  "Commands:",
  "  export    Generate server.py, mcp.json and README.md for a project [alias: gen]",
  "  validate  Check a project for problems without generating anything",
  "  help      Print this message or the help of the given subcommand(s)",
  "",
  "Options:",
  "  -v, --verbose...  Increase logging verbosity (`-v`, `-vv`, `-vvv`)",
  "  -h, --help        Print help",
  "  -V, --version     Print version"]

def mainHelp : String := textOfLines mainHelpLines

def Subcommand.helpText : Subcommand → String
  | .exporting => textOfLines [
    "Generate server.py, mcp.json and README.md for a project",
    "",
    "Usage: toolsmith export [OPTIONS] <PROJECT> <OUTPUT_DIR>",
    "",
    "Arguments:",
    "  <PROJECT>     Project file, directory containing toolsmith.\x7bjson,yaml,yml\x7d, or `-` " ++
      "for stdin",
    "  <OUTPUT_DIR>  Destination directory for the generated files or archive",
    "",
    "Options:",
    "  -v, --verbose...       Increase logging verbosity (`-v`, `-vv`, `-vvv`)",
    "      --zip              Bundle the artifacts into mcp_project_<name>.zip instead of loose " ++
      "files",
    "  -f, --force            Force overwrite of an existing output directory or archive",
    "      --dry-run          Preview actions without touching the filesystem",
    "      --skip-validation  Generate even when validation reports errors",
    "  -h, --help             Print help"]
  | .validating => textOfLines [
    "Check a project for problems without generating anything",
    "",
    "Usage: toolsmith validate [OPTIONS] <PROJECT>",
    "",
    "Arguments:",
    "  <PROJECT>  Project file, directory containing toolsmith.\x7bjson,yaml,yml\x7d, or `-` " ++
      "for stdin",
    "",
    "Options:",
    "  -v, --verbose...  Increase logging verbosity (`-v`, `-vv`, `-vvv`)",
    "  -h, --help        Print help"]
  | .help => textOfLines [
    "Print this message or the help of the given subcommand(s)",
    "",
    "Usage: toolsmith help [COMMAND]...",
    "",
    "Arguments:",
    "  [COMMAND]...  Print help for the subcommand(s)"]

def versionText : String := programName ++ " 0.1.0\n"

end ToolScaffold.CommandLine
