import SyntaxGraft.Selector.Basic
import SyntaxGraft.Tree.Lookup
import SyntaxGraft.Tree.Occurrence
/-!
# Matching

A selector is matched at an occurrence, from right to left: the subject is tested first, and a
combinator then asks for some related occurrence that the left part matches.  The matcher recurses
on the selector alone; where to look is read from the path of the occurrence.
-/

namespace SyntaxGraft

/-! ### Attributes -/

/-- What an attribute path leads to, as far as tests can tell. -/
inductive AttributeSubject where
  | scalar (value : Scalar)
  | node (target : Node)
  | sequence
  /-- The kind of the node itself. -/
  | kind (name : String)

namespace AttributeSubject

/-- The text that is compared: of a node the text it was read from; a sequence has none. -/
def text? : AttributeSubject → Option Text
  | .scalar value => some value.text.toList
  | .node target => target.sourceText?
  | .sequence => none
  | .kind name => some name.toList

/-- What a path leads to from a node.  The path `kind` means the kind of a node without such a
field. -/
def find? (target : Node) (path : List String) : Option AttributeSubject :=
  match target.lookup path with
  | some (.value (.scalar value)) => some (.scalar value)
  | some (.value (.node child)) => some (.node child)
  | some (.element child) => some (.node child)
  | some (.value (.nodes _)) => some .sequence
  | none => if path = ["kind"] then some (.kind target.kind) else none

/-- The subject equals the value: by type for two numbers, two truth values and two nulls, else by
text. -/
def equals (subject : AttributeSubject) (value : AttributeValue) : Bool :=
  match subject, value.typed with
  | .scalar (.number actual), .number wanted => actual == wanted
  | .scalar (.bool actual), .bool wanted => actual == wanted
  | .scalar .null, .null => true
  | _, _ => subject.text? == some value.text

/-- The order of two numbers is as the operator says. -/
def ordered (op : CompareOp) (actual wanted : Float) : Bool :=
  match op with
  | .lt => actual < wanted
  | .le => actual ≤ wanted
  | .gt => wanted < actual
  | .ge => wanted ≤ actual
  | .eq | .ne => false

/-- The comparison holds.  Only texts are unequal, and only numbers are ordered. -/
def compare (subject : AttributeSubject) (op : CompareOp) (value : AttributeValue) : Bool :=
  match op with
  | .eq => subject.equals value
  | .ne => subject.text?.isSome && !subject.equals value
  | op =>
    match subject, value.typed with
    | .scalar (.number actual), .number wanted => ordered op actual wanted
    | _, _ => false

/-- The test holds. -/
def passes (subject : AttributeSubject) : AttributeTest → Bool
  | .present =>
    match subject with
    | .scalar .null => false
    | _ => true
  | .compare op value => subject.compare op value
  | .regex pattern negated =>
    match subject.text? with
    | some text => pattern.isMatch text != negated
    | none => false

end AttributeSubject

/-- The attribute's path leads somewhere, and its test holds there. -/
def Attribute.holds (requirement : Attribute) (node : Node) : Bool :=
  match AttributeSubject.find? node requirement.path with
  | some subject => subject.passes requirement.test
  | none => false

/-! ### Selectors -/

/-- The occurrences that stand to an occurrence as the combinator says, the nearest first. -/
def Combinator.related (combinator : Combinator) (occurrence : Occurrence) : List Occurrence :=
  match combinator with
  | .child => occurrence.parent?.toList
  | .descendant => occurrence.ancestors
  | .sibling => occurrence.earlierSiblings
  | .adjacent => occurrence.earlierSiblings.take 1

/-- The position in the sequence the node stands in, and the length of the sequence, are as
wanted. -/
def Occurrence.hasPosition (occurrence : Occurrence) (wanted : Nat → Nat → Bool) : Bool :=
  match occurrence.position? with
  | some (index, length) => wanted index length
  | none => false

mutual

/-- The chain matches with its subject here. -/
def Complex.holds : Complex → Occurrence → Bool
  | .compound subject, occurrence => subject.holds occurrence
  | .combined left combinator subject, occurrence =>
    subject.holds occurrence
      && (combinator.related occurrence).any fun related => left.holds related

/-- Every test of the compound holds here. -/
def Compound.holds : Compound → Occurrence → Bool
  | .mk kind attributes pseudos, occurrence =>
    (match kind with
      | some wanted => Kind.satisfies wanted occurrence.node.kind
      | none => true)
    && attributes.all (fun requirement => requirement.holds occurrence.node)
    && allPseudosHold pseudos occurrence

/-- The pseudo-class holds here. -/
def Pseudo.holds : Pseudo → Occurrence → Bool
  | .not list, occurrence => !someComplexHolds list occurrence
  | .is list, occurrence => someComplexHolds list occurrence
  | .has list, occurrence =>
    occurrence.descendants.any fun descendant => someComplexHolds list descendant
  | .firstChild, occurrence => occurrence.hasPosition fun index _ => index == 0
  | .lastChild, occurrence => occurrence.hasPosition fun index length => index + 1 == length
  | .nthChild position, occurrence =>
    occurrence.hasPosition fun index _ => index + 1 == position
  | .nthLastChild position, occurrence =>
    occurrence.hasPosition fun index length => length - index == position
  | .statement, occurrence => Kind.isStatement occurrence.node.kind
  | .expression, occurrence => Kind.isExpression occurrence.node.kind

/-- Every pseudo-class of a list holds here. -/
def allPseudosHold : List Pseudo → Occurrence → Bool
  | [], _ => true
  | pseudo :: rest, occurrence => pseudo.holds occurrence && allPseudosHold rest occurrence

/-- Some chain of a list matches here. -/
def someComplexHolds : List Complex → Occurrence → Bool
  | [], _ => false
  | complex :: rest, occurrence => complex.holds occurrence || someComplexHolds rest occurrence

end

/-- Some alternative matches at the occurrence. -/
def SelectorList.holds (list : SelectorList) (occurrence : Occurrence) : Bool :=
  someComplexHolds list occurrence

/-- The occurrences from a root on at which a list matches, in pre-order. -/
def SelectorList.select (list : SelectorList) (root : Node) : List Occurrence :=
  (root.occurrences []).filter fun occurrence => SelectorList.holds list occurrence

end SyntaxGraft
