/-!
# Nodes of a YAML document

The tree of a document before its scalars are given a type. Anchors and aliases are numbered: an
anchor's number is how many different names had been given before it, so an anchor that reuses a name
can take a number that is in use. An alias stands for the last node with its number.
-/

namespace ToolScaffold.Yaml

/-- What may stand before the content of a node. -/
structure Properties where
  anchor : Option Nat
  tag : Option String

namespace Properties

def none : Properties := ⟨.none, .none⟩

/-- The number of properties that are there. -/
def count (p : Properties) : Nat :=
  (if p.anchor.isSome then 1 else 0) + (if p.tag.isSome then 1 else 0)

end Properties

inductive Node where
  | alias (anchor : Nat)
  | scalar (properties : Properties) (isPlain : Bool) (text : String)
  | sequence (properties : Properties) (items : List Node)
  | mapping (properties : Properties) (entries : List (Node × Node))

namespace Node

/-- The number of steps that writing the node takes: one for a scalar or an alias, and two more than
its members for a collection. -/
def size : Node → Nat
  | .alias _ => 1
  | .scalar .. => 1
  | .sequence _ items => 2 + sizeAll items
  | .mapping _ entries => 2 + sizeEntries entries
where
  sizeAll : List Node → Nat
    | [] => 0
    | item :: rest => item.size + sizeAll rest
  sizeEntries : List (Node × Node) → Nat
    | [] => 0
    | (key, value) :: rest => key.size + value.size + sizeEntries rest

/-- The node with the anchor's number at its start. -/
def ownAnchor (node : Node) (properties : Properties) : List (Nat × Node) :=
  match properties.anchor with
  | some n => [(n, node)]
  | .none => []

/-- The anchored nodes in the order of their anchors. -/
def anchored : Node → List (Nat × Node)
  | .alias _ => []
  | .scalar properties isPlain text => ownAnchor (.scalar properties isPlain text) properties
  | .sequence properties items =>
    ownAnchor (.sequence properties items) properties ++ anchoredAll items
  | .mapping properties entries =>
    ownAnchor (.mapping properties entries) properties ++ anchoredEntries entries
where
  anchoredAll : List Node → List (Nat × Node)
    | [] => []
    | item :: rest => item.anchored ++ anchoredAll rest
  anchoredEntries : List (Node × Node) → List (Nat × Node)
    | [] => []
    | (key, value) :: rest => key.anchored ++ value.anchored ++ anchoredEntries rest

end Node

end ToolScaffold.Yaml
