import SyntaxGraft.Tree.Node
/-!
# Occurrences

An occurrence of a node is the node together with the path of steps that leads to it, the innermost
step first.  Nodes have no links to their parents: ancestors and siblings are read from the path.
`Node.occurrences` lists every occurrence below a root, in pre-order over the fields.
-/

namespace SyntaxGraft

/-- The slot a node occupies in its parent. -/
structure Step where
  parent : Node
  field : String
  /-- The position in a sequence; none in a field with a single node. -/
  index : Option Nat

/-- The steps from a node up to the root. -/
abbrev Path := List Step

/-- A node and the path to it. -/
structure Occurrence where
  node : Node
  path : Path

namespace Occurrence

/-- The parent, of an occurrence below the root. -/
def parent? (occurrence : Occurrence) : Option Occurrence :=
  match occurrence.path with
  | [] => none
  | step :: rest => some ⟨step.parent, rest⟩

/-- The ends of the steps of a path, the nearest first. -/
def endsOf : Path → List Occurrence
  | [] => []
  | step :: rest => ⟨step.parent, rest⟩ :: endsOf rest

/-- The proper ancestors, the nearest first. -/
def ancestors (occurrence : Occurrence) : List Occurrence :=
  endsOf occurrence.path

/-- The elements before an index, the nearest first, as occurrences beside `step`. -/
def elementsBefore (step : Step) (rest : Path) (siblings : List Node) : Nat → List Occurrence
  | 0 => []
  | index + 1 =>
    match siblings[index]? with
    | some sibling =>
      ⟨sibling, { step with index := some index } :: rest⟩
        :: elementsBefore step rest siblings index
    | none => elementsBefore step rest siblings index

/-- The earlier elements of the sequence the node stands in, the nearest first. -/
def earlierSiblings (occurrence : Occurrence) : List Occurrence :=
  match occurrence.path with
  | [] => []
  | step :: rest =>
    match step.index, step.parent.get? step.field with
    | some position, some (.nodes siblings) => elementsBefore step rest siblings position
    | _, _ => []

/-- The position of the node in its sequence and the length of the sequence. -/
def position? (occurrence : Occurrence) : Option (Nat × Nat) := do
  let step ← occurrence.path.head?
  let index ← step.index
  let value ← step.parent.get? step.field
  return (index, value.children.length)

end Occurrence

namespace Node

mutual

/-- Every occurrence from a node on, in pre-order. -/
def occurrences : Node → Path → List Occurrence
  | .mk header fields, path =>
    ⟨.mk header fields, path⟩ :: occurrencesInFields (.mk header fields) path fields

/-- The occurrences below some fields of a parent. -/
def occurrencesInFields (parent : Node) (path : Path) : List Field → List Occurrence
  | [] => []
  | .mk name (.node child) :: rest =>
    child.occurrences (⟨parent, name, none⟩ :: path) ++ occurrencesInFields parent path rest
  | .mk name (.nodes children) :: rest =>
    occurrencesInSequence parent path name 0 children ++ occurrencesInFields parent path rest
  | .mk _ (.scalar _) :: rest => occurrencesInFields parent path rest

/-- The occurrences below the elements of a sequence from an index on. -/
def occurrencesInSequence (parent : Node) (path : Path) (name : String) :
    Nat → List Node → List Occurrence
  | _, [] => []
  | index, node :: rest =>
    node.occurrences (⟨parent, name, some index⟩ :: path)
      ++ occurrencesInSequence parent path name (index + 1) rest

end

end Node

/-- The proper descendants of an occurrence, in pre-order. -/
def Occurrence.descendants (occurrence : Occurrence) : List Occurrence :=
  Node.occurrencesInFields occurrence.node occurrence.path occurrence.node.fields

end SyntaxGraft
