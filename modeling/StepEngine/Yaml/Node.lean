import StepEngine.Yaml.Tag

/-!
# Nodes of a YAML text

A node is what the text writes at one place: a scalar, a sequence, a mapping, or an alias that stands for a node written elsewhere. The tags
are interpreted and the scalars not yet.

Anchors give names to nodes. A name that is used for the first time gets the next free slot, and a name that is used again gets a slot by
the same count, without making it taken: the next new name shares it. An alias stands for the last node that was put into the slot of its
name.
-/

namespace StepEngine

namespace Yaml

/-- A node of a text. -/
inductive Node where
  | alias (slot : Nat)
  | scalar (tag : Option Tag) (text : String) (plain : Bool)
  | sequence (tag : Option Tag) (items : List Node)
  | mapping (tag : Option Tag) (entries : List (Node × Node))
  deriving Inhabited, Repr

/-- The node where nothing is written. -/
def Node.empty (tag : Option Tag) : Node := .scalar tag "" true

/-- The anchors of a text. -/
structure Anchors where
  /-- The slot of every name. -/
  slots : List (String × Nat)
  /-- Which node was put into a slot, by its number, the last one first. -/
  holders : List (Nat × Nat)
  /-- The nodes that are complete, by their numbers. -/
  nodes : List (Nat × Node)
  /-- How many anchors there are. -/
  count : Nat

namespace Anchors

/-- No anchors. -/
def empty : Anchors := ⟨[], [], [], 0⟩

/-- The next anchored node starts; its number is the count of those before it. -/
def declare (a : Anchors) (name : String) : Anchors where
  slots := (name, a.slots.length) :: a.slots.filter (·.1 ≠ name)
  holders := (a.slots.length, a.count) :: a.holders
  nodes := a.nodes
  count := a.count + 1

/-- An anchored node is complete. -/
def define (a : Anchors) (number : Option Nat) (node : Node) : Anchors :=
  match number with
  | some n => { a with nodes := (n, node) :: a.nodes }
  | none => a

/-- The slot of a name. -/
def slot? (a : Anchors) (name : String) : Option Nat := a.slots.lookup name

/-- The node in a slot. -/
def node? (a : Anchors) (slot : Nat) : Option Node := (a.holders.lookup slot).bind fun number => a.nodes.lookup number

end Anchors

end Yaml

end StepEngine
