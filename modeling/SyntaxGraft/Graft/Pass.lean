import SyntaxGraft.Graft.Fragment
import SyntaxGraft.Graft.Slot
import SyntaxGraft.Selector.Compile
/-!
# Grafting

`Tree.graft` replaces every node that a selector matches by a copy of a fragment's representative.
What matches is settled before anything changes, as a list of identities.  The pass walks the tree
once; a copy is never walked, so a match inside a match is gone with it, and nothing that was put in
is replaced again.

A copy among statements that is no statement becomes an expression statement, and an expression
that binds more loosely than its slot allows gets parentheses.  The copy, or the node around it,
takes over the anchor of the node it replaces, which is how the printer finds its place.
-/

namespace SyntaxGraft

namespace Graft

/-- What is replaced, and by what. -/
structure Plan where
  /-- The identities of the matches. -/
  matched : List Nat
  representative : Node

/-- How far a pass has come. -/
structure Progress where
  /-- The next fresh identity. -/
  nextId : Nat
  replaced : Nat

/-- A copy in the form that the slot demands, with the next fresh identity. -/
def fit (slot : Slot) (copy : Node) (nextId : Nat) : Node × Nat :=
  if slot.isStatement && !Kind.isStatement copy.kind then
    (Node.expressionStatement nextId copy, nextId + 1)
  else if slot.needsParens copy then (Node.parenthesized nextId copy, nextId + 1)
  else (copy, nextId)

/-- The node that takes the place of `target`. -/
def place (plan : Plan) (slot : Slot) (target : Node) (progress : Progress) : Node × Progress :=
  let (copy, nextId) := plan.representative.renumber progress.nextId
  let (fitted, nextId) := fit slot copy nextId
  (fitted.withAnchor target.anchor, ⟨nextId, progress.replaced + 1⟩)

mutual

/-- The node with its topmost matches replaced, when it stands in `slot`. -/
def visit (plan : Plan) (slot : Slot) : Node → Progress → Node × Progress
  | .mk header fields, progress =>
    if plan.matched.contains header.id then place plan slot (.mk header fields) progress
    else
      let operator := (Node.mk header fields).operator?
      let (fields, progress) := visitFields plan header.kind operator fields progress
      (.mk header fields, progress)

/-- The fields of a parent with their topmost matches replaced. -/
def visitFields (plan : Plan) (parent : String) (operator : Option String) :
    List Field → Progress → List Field × Progress
  | [], progress => ([], progress)
  | .mk name (.node child) :: rest, progress =>
    let (child, progress) := visit plan ⟨parent, name, operator⟩ child progress
    let (rest, progress) := visitFields plan parent operator rest progress
    (.mk name (.node child) :: rest, progress)
  | .mk name (.nodes children) :: rest, progress =>
    let (children, progress) := visitNodes plan ⟨parent, name, operator⟩ children progress
    let (rest, progress) := visitFields plan parent operator rest progress
    (.mk name (.nodes children) :: rest, progress)
  | .mk name (.scalar value) :: rest, progress =>
    let (rest, progress) := visitFields plan parent operator rest progress
    (.mk name (.scalar value) :: rest, progress)

/-- The elements of a sequence with their topmost matches replaced. -/
def visitNodes (plan : Plan) (slot : Slot) : List Node → Progress → List Node × Progress
  | [], progress => ([], progress)
  | node :: rest, progress =>
    let (node, progress) := visit plan slot node progress
    let (rest, progress) := visitNodes plan slot rest progress
    (node :: rest, progress)

end

end Graft

/-- A tree after a pass, with the number of matches before it and of replacements in it.  There are
fewer replacements than matches when matches nest. -/
structure Grafted where
  tree : Tree
  matched : Nat
  replaced : Nat

/-- The tree with every match of a selector replaced by a fresh copy of a fragment. -/
def Tree.graft (tree : Tree) (selector : Selector) (fragment : Fragment) : Grafted :=
  let matched := (selector.evaluate tree).map Node.id
  let plan : Graft.Plan := ⟨matched, fragment.representative⟩
  let (root, progress) := Graft.visit plan .root tree.root ⟨tree.nextId, 0⟩
  ⟨{ tree with root, nextId := progress.nextId }, matched.length, progress.replaced⟩

end SyntaxGraft
