/-!
# The journal

While it works, a program notes what it does. A note has a level, and the part of the program that
made it. How much of the journal is shown depends on how often the user asked for more.
-/

namespace ToolScaffold

inductive Level where
  | error
  | warn
  | info
  | debug
  | trace
  deriving DecidableEq, Repr

namespace Level

def name : Level → String
  | error => "ERROR"
  | warn => "WARN"
  | info => "INFO"
  | debug => "DEBUG"
  | trace => "TRACE"

/-- The greater, the less it matters. -/
def rank : Level → Nat
  | error => 1
  | warn => 2
  | info => 3
  | debug => 4
  | trace => 5

/-- The level down to which notes are shown when the user asked for more a number of times. -/
def ofCount : Nat → Level
  | 0 => error
  | 1 => info
  | 2 => debug
  | _ => trace

end Level

/-- The parts of the program that make notes. -/
inductive Origin where
  | command
  | exporting
  | record
  | source
  | generator
  deriving DecidableEq, Repr

def Origin.name : Origin → String
  | command => "toolsmith::cli::runner"
  | exporting => "toolsmith::export"
  | record => "toolsmith::model::record"
  | source => "toolsmith::loader"
  | generator => "toolsmith::generator"

structure Note where
  level : Level
  origin : Origin
  text : String
  deriving DecidableEq, Repr

namespace Note

def isShown (limit : Level) (n : Note) : Bool := n.level.rank ≤ limit.rank

/-- The lines of a text after the first, each moved to the right. -/
def continued : List Char → List Char
  | [] => []
  | c :: rest => if c = '\n' then "\n    ".toList ++ continued rest else c :: continued rest

/-- The note as a line, without the time. -/
def line (n : Note) : String :=
  let level := n.level.name
  "[" ++ level ++ String.ofList (List.replicate (5 - level.length) ' ') ++ " " ++ n.origin.name ++
    "] " ++ String.ofList (continued n.text.toList) ++ "\n"

end Note

end ToolScaffold
