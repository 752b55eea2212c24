import SyntaxGraft.Tree.Node
/-!
# Field paths

A path of segments leads from a node to a field value or to one element of a sequence: a segment
names a field of a node, or is the index of an element of a sequence.  A scalar has no parts.
-/

namespace SyntaxGraft

/-- What a path leads to. -/
inductive Resolved where
  /-- The value of a field. -/
  | value (value : Value)
  /-- A node itself: the start of the path, or an element picked by its index. -/
  | element (node : Node)

namespace Resolved

/-- What one more segment leads to. -/
def step (current : Resolved) (segment : String) : Option Resolved :=
  match current with
  | .element node => (node.get? segment).map .value
  | .value (.node node) => (node.get? segment).map .value
  | .value (.nodes nodes) => do
    let index ← Number.word? 10 segment.toList
    return .element (← nodes[index]?)
  | .value (.scalar _) => none

/-- What a path leads to from here. -/
def follow (current : Resolved) : List String → Option Resolved
  | [] => some current
  | segment :: rest => do (← current.step segment).follow rest

end Resolved

namespace Node

/-- What a path of segments leads to from a node. -/
def lookup (node : Node) (segments : List String) : Option Resolved :=
  (Resolved.element node).follow segments

/-- The segments of a dotted path. -/
def segments (path : String) : List String :=
  (Text.splitWords '.' path.toList).map String.ofList

/-- The field value at a dotted path; a path that ends on an index names no field. -/
def getPath? (node : Node) (path : String) : Option Value :=
  match node.lookup (segments path) with
  | some (.value value) => some value
  | _ => none

end Node

end SyntaxGraft
