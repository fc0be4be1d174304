/-!
# Handlers

How a tool makes its answer.
-/

namespace ToolScaffold

/-- How a tool makes its answer. -/
inductive Handler where
  /-- A fixed text. -/
  | static
  /-- The answer of a web address. -/
  | api
  deriving DecidableEq, Repr

/-- A tool asks for a handler that does not exist. -/
structure UnsupportedHandler where
  tool : String
  handler : String
  deriving DecidableEq, Repr

namespace Handler

def all : List Handler := [static, api]

def name : Handler → String
  | static => "static"
  | api => "api"

def ofName? (s : String) : Option Handler := all.find? fun handler => handler.name = s

/-- The handler that a tool asks for. -/
def parse (tool name : String) : Except UnsupportedHandler Handler :=
  match ofName? name with
  | some handler => .ok handler
  | none => .error ⟨tool, name⟩

end Handler

end ToolScaffold
