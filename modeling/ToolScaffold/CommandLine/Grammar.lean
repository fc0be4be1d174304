import ToolScaffold.Command

/-!
# The grammar of the command line

The flags and the arguments that each command takes, and the usage lines that show them.
-/

namespace ToolScaffold.CommandLine

def programName : String := "toolsmith"

inductive Flag where
  | verbose
  | zip
  | force
  | dryRun
  | skipValidation
  | help
  | version
  deriving DecidableEq, Repr

namespace Flag

def long : Flag → String
  | verbose => "verbose"
  | zip => "zip"
  | force => "force"
  | dryRun => "dry-run"
  | skipValidation => "skip-validation"
  | help => "help"
  | version => "version"

def short? : Flag → Option Char
  | verbose => some 'v'
  | force => some 'f'
  | help => some 'h'
  | version => some 'V'
  | _ => none

/-- The flag in a usage line; one that counts is followed by dots. -/
def shown (f : Flag) : String := "--" ++ f.long ++ if f = verbose then "..." else ""

end Flag

/-- An argument that is told by its place. -/
inductive Argument where
  | project
  | outputDirectory
  deriving DecidableEq, Repr

/-- The argument in a usage line. -/
def Argument.shown : Argument → String
  | project => "<PROJECT>"
  | outputDirectory => "<OUTPUT_DIR>"

inductive Subcommand where
  | exporting
  | validating
  | help
  deriving DecidableEq, Repr

namespace Subcommand

def all : List Subcommand := [exporting, validating, help]

def name : Subcommand → String
  | exporting => "export"
  | validating => "validate"
  | help => "help"

def names : Subcommand → List String
  | exporting => ["export", "gen"]
  | validating => ["validate"]
  | help => ["help"]

def ofName? (s : String) : Option Subcommand := all.find? fun c => c.names.contains s

end Subcommand

structure Grammar where
  /-- The words that call the command. -/
  call : String
  flags : List Flag
  arguments : List Argument
  /-- Whether a subcommand has to follow. -/
  hasSubcommands : Bool

namespace Grammar

/-- What stands before any subcommand. -/
def main : Grammar := ⟨programName, [.verbose, .help, .version], [], true⟩

/-- What a subcommand takes. -/
def ofSubcommand : Subcommand → Grammar
  | .exporting => ⟨programName ++ " export",
      [.zip, .force, .dryRun, .skipValidation, .verbose, .help], [.project, .outputDirectory], false⟩
  | .validating => ⟨programName ++ " validate", [.verbose, .help], [.project], false⟩
  | .help => ⟨programName ++ " help", [], [], false⟩

def ofLong? (g : Grammar) (name : String) : Option Flag := g.flags.find? fun f => f.long = name

def ofShort? (g : Grammar) (letter : Char) : Option Flag :=
  g.flags.find? fun f => f.short? = some letter

/-- The words that follow a call, behind a space each. -/
def spaced (words : List String) : String := String.join (words.map (" " ++ ·))

/-- The usage line that shows the named flags, or, without any use, that there are options. -/
def usage (g : Grammar) (isUsed : Bool) (used : List Flag) : String :=
  "Usage: " ++ g.call ++
    spaced ((if isUsed then used.map Flag.shown else if g.flags = [] then [] else ["[OPTIONS]"]) ++
      g.arguments.map Argument.shown ++
      if g.hasSubcommands then ["<COMMAND>"] else [])

end Grammar

end ToolScaffold.CommandLine
