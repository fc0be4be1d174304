import ToolScaffold.CommandLine.Similar
import ToolScaffold.CommandLine.UsageError

/-!
# Command lines

Reads the words of a command line, one after the other: flags before the subcommand, the subcommand,
then its flags and arguments in any order. After two hyphens every word is an argument. The first
word that does not fit decides about the error; what is missing shows only at the end.
-/

namespace ToolScaffold.CommandLine

structure Invocation where
  /-- How often the user asked for more of the journal, up to 255. -/
  verbose : Nat
  command : Command
  deriving DecidableEq, Repr

structure Reading where
  grammar : Grammar
  verbose : Option Nat
  /-- The other flags given, the last first. -/
  flags : List Flag
  /-- The arguments given, the last first. -/
  arguments : List String
  /-- Whether two hyphens have come. -/
  onlyArguments : Bool

namespace Reading

def start (grammar : Grammar) : Reading := ⟨grammar, none, [], [], false⟩

def maxCount : Nat := 255

/-- The usage line without use. -/
def usage (r : Reading) : String := r.grammar.usage false []

/-- The flags that were given, in order. -/
def used (r : Reading) : List Flag :=
  (if r.verbose.isSome then [.verbose] else []) ++ r.flags.reverse

/-- Whether an argument that must not be empty is empty. It shows when the next flag, or the end, is
reached. -/
def emptyArgument? (r : Reading) : Option Argument :=
  match r.arguments, r.grammar.arguments with
  | ["", _], [_, .outputDirectory] => some .outputDirectory
  | _, _ => none

def takeFlag (r : Reading) (f : Flag) (topic : Option Subcommand) : Except UsageError Reading :=
  match r.emptyArgument? with
  | some argument => .error (.emptyValue argument)
  | none =>
    match f with
    | .help => .error (.help topic)
    | .version => .error .version
    | .verbose => .ok { r with verbose := some (min maxCount (r.verbose.getD 0 + 1)) }
    | f =>
      if r.flags.contains f then .error (.repeatedFlag f r.usage)
      else .ok { r with flags := f :: r.flags }

/-- Whether a word that is not known can be meant as an argument. -/
def valueTip (r : Reading) (word : String) : List String :=
  if r.grammar.arguments.isEmpty then []
  else ["to pass " ++ quotedName word ++ " as a value, use " ++ quotedName ("-- " ++ word)]

/-- The subcommand among the words that comes first and has a flag like the given one. -/
def flagElsewhere? (words : List String) (name : String) : Option (Subcommand × String) :=
  let found := [Subcommand.exporting, .validating].filterMap fun c =>
    match (Similar.among ((Grammar.ofSubcommand c).flags.map Flag.long) name).getLast?,
        words.findIdx? (· = c.name) with
    | some flag, some n => some (n, (c, flag))
    | _, _ => none
  (found.mergeSort fun a b => a.1 ≤ b.1).head?.map Prod.snd

def unknownLong (r : Reading) (name : String) (words : List String) : UsageError :=
  let word := "--" ++ name
  match (Similar.among (r.grammar.flags.map Flag.long) name).getLast?.bind r.grammar.ofLong? with
  | some f =>
    let used := if r.used.contains f then r.used else r.used ++ [f]
    .unknownArgument word (some f) [] (r.grammar.usage true used)
  | none =>
    let isUsed := !r.used.isEmpty || !r.arguments.isEmpty
    let elsewhere :=
      if r.grammar.hasSubcommands then
        (flagElsewhere? words name).map fun (c, flag) =>
          quotedName (c.name ++ " --" ++ flag) ++ " exists"
      else none
    .unknownArgument word none
      (match elsewhere with
        | some tip => [tip]
        | none => r.valueTip word)
      (r.grammar.usage isUsed r.used)

/-- Reads a word that starts with two hyphens; `words` are those after it. -/
def takeLong (r : Reading) (word : List Char) (words : List String) (topic : Option Subcommand) :
    Except UsageError Reading :=
  let name := String.ofList (word.takeWhile (· ≠ '='))
  match r.grammar.ofLong? name with
  | none => .error (r.unknownLong name words)
  | some f =>
    match word.dropWhile (· ≠ '=') with
    | [] => r.takeFlag f topic
    | _ :: value =>
      let used := if r.used.contains f then r.used else r.used ++ [f]
      .error (.unexpectedValue f (String.ofList value) (r.grammar.usage true used))

/-- Reads letters that follow one hyphen. -/
def takeLetters (r : Reading) (topic : Option Subcommand) :
    List Char → Except UsageError Reading
  | [] => .ok r
  | c :: rest =>
    match r.grammar.ofShort? c with
    | none =>
      let word := String.ofList ['-', c]
      .error (.unknownArgument word none (r.valueTip word) r.usage)
    | some f => do takeLetters (← r.takeFlag f topic) topic rest

def takeArgument (r : Reading) (word : String) : Except UsageError Reading :=
  if r.arguments.length < r.grammar.arguments.length then
    .ok { r with arguments := word :: r.arguments }
  else .error (.unknownArgument word none [] r.usage)

/-- Reads a word that is not a subcommand; `words` are those after it. -/
def takeFlagWord? (r : Reading) (word : String) (words : List String)
    (topic : Option Subcommand) : Option (Except UsageError Reading) :=
  if r.onlyArguments then none
  else
    match word.toList with
    | '-' :: '-' :: [] => some (.ok { r with onlyArguments := true })
    | '-' :: '-' :: rest => some (r.takeLong rest words topic)
    | '-' :: c :: rest => some (r.takeLetters topic (c :: rest))
    | _ => none

def takeAll (r : Reading) (topic : Subcommand) : List String → Except UsageError Reading
  | [] => .ok r
  | word :: rest => do
    let next ←
      match r.takeFlagWord? word rest (some topic) with
      | some next => next
      | none => r.takeArgument word
    takeAll next topic rest

end Reading

def argumentsOf (r : Reading) : Except UsageError (List String) :=
  match r.emptyArgument? with
  | some argument => .error (.emptyValue argument)
  | none =>
    let missing := r.grammar.arguments.drop r.arguments.length
    if missing.isEmpty then .ok r.arguments.reverse else .error (.missingArguments missing)

/-- The subcommand whose help is asked for. -/
def helpTopic (topic : Option Subcommand) : List String → Except UsageError (Option Subcommand)
  | [] => .ok topic
  | word :: rest =>
    match topic, Subcommand.ofName? word with
    | none, some c => helpTopic (some c) rest
    | some c, _ =>
      .error (.unknownSubcommand word [] ((Grammar.ofSubcommand c).usage false []))
    | none, none => .error (.unknownSubcommand word [] (Grammar.main.usage false []))

def readSubcommand (verbose : Option Nat) (c : Subcommand) (words : List String) :
    Except UsageError Invocation := do
  match c with
  | .help => .error (.help (← helpTopic none words))
  | .exporting =>
    let r ← (Reading.start (.ofSubcommand c)).takeAll c words
    let verbose := (r.verbose <|> verbose).getD 0
    match ← argumentsOf r with
    | [project, output] =>
      return ⟨verbose, .exporting {
        project
        outputDirectory := ⟨output⟩
        zip := r.flags.contains .zip
        force := r.flags.contains .force
        dryRun := r.flags.contains .dryRun
        skipValidation := r.flags.contains .skipValidation }⟩
    | _ => .error (.missingArguments r.grammar.arguments)
  | .validating =>
    let r ← (Reading.start (.ofSubcommand c)).takeAll c words
    let verbose := (r.verbose <|> verbose).getD 0
    match ← argumentsOf r with
    | [project] => return ⟨verbose, .validating project⟩
    | _ => .error (.missingArguments r.grammar.arguments)

/-- The error about a word where a subcommand is due. -/
def notASubcommand (r : Reading) (word : String) : UsageError :=
  if r.onlyArguments ∧ (Subcommand.ofName? word).isSome then
    .unknownArgument word none
      ["subcommand " ++ quotedName word ++ " exists; to use it, remove the '--' before it"] r.usage
  else
    .unknownSubcommand word (Similar.among (Subcommand.all.flatMap Subcommand.names) word) r.usage

/-- Reads what stands before the subcommand, and then the subcommand. -/
def readMain (r : Reading) : List String → Except UsageError Invocation
  | [] => .error (if r.verbose.isSome then .missingSubcommand else .noArguments)
  | word :: rest =>
    match if r.onlyArguments then none else Subcommand.ofName? word with
    | some c => readSubcommand r.verbose c rest
    | none =>
      match r.takeFlagWord? word rest none with
      | some next => do readMain (← next) rest
      | none => .error (notASubcommand r word)

/-- Reads a command line, without the name of the program. -/
def read (words : List String) : Except UsageError Invocation :=
  readMain (Reading.start .main) words

end ToolScaffold.CommandLine
