import ToolScaffold.Disk.Tree
import ToolScaffold.Error
import ToolScaffold.Journal

/-!
# Hosts

What a command asks of the machine that it runs on: its disk, its input, and places for what it
prints and notes. `World.host` is a host in a pure state, on which commands can be reasoned about.
-/

namespace ToolScaffold

/-- A machine, whose operations are effects of `m`. -/
structure Host (m : Type → Type) where
  disk : Disk m
  readInput : m (Except DiskFault String)
  print : String → m Unit
  note : Note → m Unit

/-- What a command does on a machine until it ends or fails. -/
abbrev Action (m : Type → Type) := ExceptT Error m

namespace Host

variable {m : Type → Type} [Monad m]

/-- Makes a note. -/
def say (host : Host m) (level : Level) (origin : Origin) (text : String) : Action m Unit :=
  ExceptT.lift (host.note ⟨level, origin, text⟩)

/-- Makes notes one after the other. -/
def sayAll (host : Host m) (level : Level) (origin : Origin) : List String → Action m Unit
  | [] => return ()
  | text :: rest => do
    host.say level origin text
    host.sayAll level origin rest

/-- An operation that the disk may refuse. -/
def attempt {α : Type} (operation : m (Except DiskFault α)) : Action m α :=
  ExceptT.mk do return (← operation).mapError .disk

end Host

structure World where
  tree : Tree
  /-- What the disk does not allow; no command changes it. -/
  limits : Limits
  input : Content
  printed : List String
  journal : List Note

namespace World

/-- A machine on which nothing has happened, with a text as its input. -/
def ofTree (tree : Tree) (input : String) : World := ⟨tree, .none, .text input, [], []⟩

/-- The machine whose state is a value. -/
def host : Host (StateM World) where
  disk := Tree.disk World.tree (fun world tree => { world with tree }) World.limits
  readInput := do return (← get).input.read
  print line := modify fun world => { world with printed := world.printed ++ [line] }
  note n := modify fun world => { world with journal := world.journal ++ [n] }

def output (world : World) : String := String.join (world.printed.map (· ++ "\n"))

end World

end ToolScaffold
