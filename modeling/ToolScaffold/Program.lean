import ToolScaffold.CommandLine

/-!
# The program

Reads its command line and does what it says. The journal, as far as it is shown, and the error that
ends a command go to the errors.
-/

namespace ToolScaffold

/-- How a run of the program ended, and what it wrote. -/
structure Outcome where
  exit : Nat
  output : String
  errors : String
  deriving DecidableEq, Repr

namespace Program

/-- The part of a journal that is shown. -/
def shown (limit : Level) (journal : List Note) : String :=
  String.join ((journal.filter (Note.isShown limit)).map Note.line)

def run (words : List String) (world : World) : Outcome × World :=
  match CommandLine.read words with
  | .error e =>
    let a := e.answer
    (if a.isError then ⟨a.exit, "", a.text⟩ else ⟨a.exit, a.text, ""⟩, world)
  | .ok invocation =>
    let (result, after) := (Command.run World.host invocation.command).run world
    let notes := shown (.ofCount invocation.verbose) after.journal
    match result with
    | .ok () => (⟨0, after.output, notes⟩, after)
    | .error e => (⟨1, after.output, notes ++ e.message ++ "\n"⟩, after)

end Program

end ToolScaffold
