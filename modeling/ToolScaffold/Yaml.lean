import ToolScaffold.Yaml.Node.Parser
import ToolScaffold.Yaml.Scalar
import ToolScaffold.Yaml.Token.Lexer

/-!
# YAML documents as JSON values

A document of mappings, sequences and scalars is read as the JSON value of the same shape. Keys are
taken as texts, and a repeated key keeps its first place and its last value. Tags that are private to
an application are refused. Aliases are followed, up to a number of times that grows with the
document, and collections nest up to 128 deep.
-/

namespace ToolScaffold.Yaml

/-- How deep collections nest. -/
def maxDepth : Nat := 128

/-- What the values of a document's nodes depend on besides the nodes. -/
structure Document where
  /-- The nodes that aliases can stand for, the last first. -/
  targets : List (Nat × Node)
  /-- How many aliases may be followed in all. -/
  limit : Nat

namespace Document

def ofNode (root : Node) : Document := ⟨root.anchored.reverse, 100 * root.size⟩

def target? (d : Document) (anchor : Nat) : Option Node :=
  (d.targets.find? fun entry => entry.1 = anchor).map Prod.snd

/-- Follows an alias; `followed` counts the aliases. -/
def follow (d : Document) (node : Node) (followed : Nat) : Option (Node × Nat) :=
  match node with
  | .alias anchor =>
    if d.limit < followed + 1 then none else (d.target? anchor).map (·, followed + 1)
  | _ => some (node, followed)

def key (d : Document) (node : Node) (followed : Nat) : Option (String × Nat) := do
  match ← d.follow node followed with
  | (.scalar _ _ text, followed) => some (text, followed)
  | _ => none

/-- Whether a collection's tag is private to an application. -/
def isPrivate (p : Properties) : Bool := p.tag.any (·.startsWith "!")

/-- The value of a node whose collections may nest `depth` deep. -/
def value (d : Document) : (depth : Nat) → Node → Nat → Option (Json × Nat)
  | 0, node, followed => do
    match ← d.follow node followed with
    | (.scalar p isPlain text, followed) =>
      return (← Scalar.value p.tag isPlain text, followed)
    | _ => none
  | depth + 1, node, followed => do
    match ← d.follow node followed with
    | (.alias _, _) => none
    | (.scalar p isPlain text, followed) =>
      return (← Scalar.value p.tag isPlain text, followed)
    | (.sequence p items, followed) =>
      if isPrivate p then none
      let (values, followed) ← items.foldlM (fun (values, followed) item => do
        let (value, followed) ← d.value depth item followed
        return (value :: values, followed)) ([], followed)
      return (.arr values.reverse, followed)
    | (.mapping p entries, followed) =>
      if isPrivate p then none
      let (fields, followed) ← entries.foldlM (fun (fields, followed) (entry : Node × Node) => do
        let (key, followed) ← d.key entry.1 followed
        let (value, followed) ← d.value depth entry.2 followed
        return ((key, value) :: fields, followed)) ([], followed)
      return (.obj (Entries.ofList fields.reverse), followed)

end Document

/-- Reads a YAML text that holds at most one document. An empty text is null. -/
def read? (text : String) : Option Json := do
  match ← Node.ofTokens? (← Token.ofText? text) with
  | none => some .null
  | some root => return (← (Document.ofNode root).value maxDepth root 0).1

end ToolScaffold.Yaml
