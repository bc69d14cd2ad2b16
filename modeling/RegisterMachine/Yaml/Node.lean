/-
The nodes of a document.

* `Yaml.Node`: a scalar, a sequence, a mapping, or a reference to another node.
-/
import RegisterMachine.Yaml.Scalar

namespace RegisterMachine.Yaml

/-- A node of a document.  Every node knows its line, counted from one, and its
tag in the short form. -/
inductive Node where
  | scalar (line : Nat) (tag text : Bytes)
  | sequence (line : Nat) (tag : Bytes) (items : List Node)
  | mapping (line : Nat) (tag : Bytes) (pairs : List (Node × Node))
  /-- A reference to a node that is complete. -/
  | alias (line : Nat) (name : Bytes) (target : Node)
  /-- A reference to a node that it is a part of, with that node's line and
  tag. -/
  | enclosing (line : Nat) (name : Bytes) (isMapping : Bool) (targetLine : Nat) (targetTag : Bytes)
deriving Repr

namespace Node

/-- The line of a node. -/
def line : Node → Nat
  | .scalar n _ _ | .sequence n _ _ | .mapping n _ _ | .alias n _ _ | .enclosing n _ _ _ _ => n

/-- The tag of a node, or of the node it refers to. -/
def tag : Node → Bytes
  | .scalar _ t _ | .sequence _ t _ | .mapping _ t _ | .enclosing _ _ _ _ t => t
  | .alias _ _ target => target.tag

/-- Two keys with equal text, as far as duplicates go: scalars with one text,
references to one name, and any two collections of one kind. -/
def sameKey : Node → Node → Bool
  | .scalar _ _ a, .scalar _ _ b => a == b
  | .sequence .., .sequence .. => true
  | .mapping .., .mapping .. => true
  | .alias _ a _, .alias _ b _ => a == b
  | .alias _ a _, .enclosing _ b _ _ _ => a == b
  | .enclosing _ a _ _ _, .alias _ b _ => a == b
  | .enclosing _ a _ _ _, .enclosing _ b _ _ _ => a == b
  | _, _ => false

/-- The text of a key in reports. -/
def keyText : Node → Bytes
  | .scalar _ _ s => s
  | .alias _ name _ => name
  | .enclosing _ name _ _ _ => name
  | _ => []

/-- A key whose value is taken in, rather than an entry. -/
def isMerge : Node → Bool
  | .scalar _ t s => s == utf8 "<<" && t == mergeTag
  | _ => false

end Node

end RegisterMachine.Yaml
