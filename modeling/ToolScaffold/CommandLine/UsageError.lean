import ToolScaffold.CommandLine.Help

/-!
# Usage errors

Why a command line is not a command. Asking for help or the version is among the reasons.
-/

namespace ToolScaffold.CommandLine

inductive UsageError where
  | noArguments
  | missingSubcommand
  | missingArguments (arguments : List Argument)
  | unknownSubcommand (name : String) (similar : List String) (usage : String)
  | unknownArgument (argument : String) (similar : Option Flag) (tips : List String)
      (usage : String)
  | repeatedFlag (flag : Flag) (usage : String)
  | unexpectedValue (flag : Flag) (value usage : String)
  | emptyValue (argument : Argument)
  | help (subcommand : Option Subcommand)
  | version
  deriving DecidableEq, Repr

namespace UsageError

/-- The lines that propose something, each after an empty beginning. -/
def tipLines (tips : List String) : String :=
  if tips.isEmpty then "" else "\n" ++ String.join (tips.map ("\n  tip: " ++ ·))

def similarTip (kind : String) (words : List String) : List String :=
  match words with
  | [] => []
  | [word] => ["a similar " ++ kind ++ " exists: " ++ quotedName word]
  | words => ["some similar " ++ kind ++ "s exist: " ++ ", ".intercalate (words.map quotedName)]

/-- A complaint, its tips and the usage. -/
def complaint (what : String) (tips : List String) (usage : Option String) : String :=
  "error: " ++ what ++ tipLines tips ++
    (match usage with
      | some usage => "\n\n" ++ usage
      | none => "") ++
    "\n\nFor more information, try '--help'.\n"

/-- What the program has to say about the command line, its exit code, and whether that is an
error. -/
structure Answer where
  text : String
  exit : Nat
  isError : Bool
  deriving DecidableEq, Repr

/-- What is missing is answered with the help of the program and an empty line. -/
def missing : Answer := ⟨mainHelp ++ "\n", 1, false⟩

/-- A complaint goes to the errors. -/
def refused (what : String) (tips : List String) (usage : Option String) : Answer :=
  ⟨complaint what tips usage, 2, true⟩

def answer : UsageError → Answer
  | noArguments => missing
  | missingSubcommand => missing
  | missingArguments _ => missing
  | unknownSubcommand name similar usage =>
    refused ("unrecognized subcommand " ++ quotedName name) (similarTip "subcommand" similar) usage
  | unknownArgument argument similar tips usage =>
    refused ("unexpected argument " ++ quotedName argument ++ " found")
      (similarTip "argument" (similar.map fun f => "--" ++ f.long).toList ++ tips) usage
  | repeatedFlag flag usage =>
    refused ("the argument " ++ quotedName flag.shown ++ " cannot be used multiple times") [] usage
  | unexpectedValue flag value usage =>
    refused ("unexpected value " ++ quotedName value ++ " for " ++ quotedName flag.shown ++
      " found; no more were expected") [] usage
  | emptyValue argument =>
    refused ("a value is required for " ++ quotedName argument.shown ++ " but none was supplied")
      [] none
  | help none => ⟨mainHelp, 0, false⟩
  | help (some subcommand) => ⟨subcommand.helpText, 0, false⟩
  | version => ⟨versionText, 0, false⟩

end UsageError

end ToolScaffold.CommandLine
