/-!
# YAML nodes

A YAML document is a tree of nodes: scalars, sequences and mappings, and aliases that
stand for a node marked earlier with an anchor. Every node knows the line it starts on,
from one, and its tag in short form (`!!str`, `!!int`, `!!seq`, …).

An alias does not hold the node it stands for: the document keeps every anchored node in
a numbered slot (`Document.anchored`), and the alias names its slot. A node may so refer
to itself, as `&a [*a]` does.
-/

namespace HelpMan.Yaml

/-- A node of a YAML document. -/
inductive Node where
  | scalar (value : String) (tag : String) (line : Nat)
  | sequence (items : List Node) (tag : String) (line : Nat)
  | mapping (entries : List (Node × Node)) (tag : String) (line : Nat)
  /-- A reference to the node in slot `slot`; `serial` tells the references of a
  document apart. -/
  | aliasRef (name : String) (slot serial : Nat) (line : Nat)
  deriving Repr, Inhabited

/-- A document: its root node and its anchored nodes, by slot. -/
structure Document where
  root : Node
  anchored : Array Node

namespace Node

/-- The line a node starts on, from one. -/
def line : Node → Nat
  | scalar _ _ l => l
  | sequence _ _ l => l
  | mapping _ _ l => l
  | aliasRef _ _ _ l => l

/-- The text that two keys are compared by: a scalar's value, an alias's name, nothing
for a collection. -/
def keyText : Node → String
  | scalar v _ _ => v
  | aliasRef n _ _ _ => n
  | _ => ""

/-- The kind of node, for comparing keys: 0 scalar, 1 sequence, 2 mapping, 3 alias. -/
def kindRank : Node → Nat
  | scalar .. => 0
  | sequence .. => 1
  | mapping .. => 2
  | aliasRef .. => 3

/-- Two keys are the same when they are of one kind and have the same text. -/
def sameKey (a b : Node) : Bool := a.kindRank == b.kindRank && a.keyText == b.keyText

end Node

end HelpMan.Yaml
