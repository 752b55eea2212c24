import SyntaxGraft.Text.Basic
import SyntaxGraft.Tree.Kind
import SyntaxGraft.Tree.Scalar
/-!
# Syntax nodes

A node has an identity, a kind and named fields.  A field holds one node, a sequence of nodes or a
scalar, and fields keep the order in which they first occurred.

A node that was parsed remembers the text it came from and its own span there (`Origin`).  Every
node that sits in a parsed parent also has an anchor: the byte range of the slot it occupies in its
parent's text.  For a parsed node the anchor is its span; a node put in the place of another keeps
its own origin and takes the other's anchor.
-/

namespace SyntaxGraft

/-- A range of byte offsets, the end excluded. -/
structure ByteRange where
  start : Nat
  stop : Nat
  deriving DecidableEq, Repr

/-- Where a node stands in its text: its byte range, and the one-based line and byte column of the
range's start. -/
structure Span where
  start : Nat
  stop : Nat
  line : Nat
  column : Nat
  deriving DecidableEq, Repr

/-- The byte range of a span. -/
def Span.range (span : Span) : ByteRange :=
  ⟨span.start, span.stop⟩

/-- The text a node was parsed from and the node's span in it. -/
structure Origin where
  source : Text
  span : Span
  deriving DecidableEq

/-- What a node is, its fields apart. -/
structure Header where
  /-- Identity within one tree. -/
  id : Nat
  kind : String
  origin : Option Origin
  /-- The byte range of the node's slot in its parent's text. -/
  anchor : Option ByteRange
  deriving DecidableEq

mutual

/-- One construct of a program. -/
inductive Node where
  | mk (header : Header) (fields : List Field)

/-- A named field. -/
inductive Field where
  | mk (name : String) (value : Value)

/-- What a field holds. -/
inductive Value where
  | node (child : Node)
  | nodes (children : List Node)
  | scalar (value : Scalar)

end

namespace Field

/-- The field's name. -/
def name : Field → String
  | .mk name _ => name

/-- What the field holds. -/
def value : Field → Value
  | .mk _ value => value

@[simp]
theorem name_mk (name : String) (value : Value) : (Field.mk name value).name = name := rfl

@[simp]
theorem value_mk (name : String) (value : Value) : (Field.mk name value).value = value := rfl

end Field

namespace Value

/-- The nodes a value holds, in order. -/
def children : Value → List Node
  | .node child => [child]
  | .nodes children => children
  | .scalar _ => []

/-- The single node, of a single node. -/
def node? : Value → Option Node
  | .node child => some child
  | _ => none

/-- The scalar, of a scalar. -/
def scalar? : Value → Option Scalar
  | .scalar value => some value
  | _ => none

end Value

/-! ### Field lists -/

namespace Fields

/-- The value of the first field of this name. -/
def get? (name : String) : List Field → Option Value
  | [] => none
  | field :: rest => if field.name = name then some field.value else get? name rest

/-- Adds a node under a name: a second node of that name makes a sequence, and a scalar gives way.
-/
def addNode (name : String) (node : Node) : List Field → List Field
  | [] => [.mk name (.node node)]
  | field :: rest =>
    if field.name = name then
      let value := match field.value with
        | .nodes nodes => .nodes (nodes ++ [node])
        | .node first => .nodes [first, node]
        | .scalar _ => .node node
      .mk name value :: rest
    else
      field :: addNode name node rest

/-- Adds a node to the sequence of this name.  When the first field of the name holds no sequence, a
field of its own is opened at the end. -/
def addToSequence (name : String) (node : Node) : List Field → List Field
  | [] => [.mk name (.nodes [node])]
  | field :: rest =>
    if field.name = name then
      match field.value with
      | .nodes nodes => .mk name (.nodes (nodes ++ [node])) :: rest
      | _ => field :: (rest ++ [.mk name (.nodes [node])])
    else
      field :: addToSequence name node rest

/-- Puts a scalar under a name, in place of what the first field of that name held. -/
def setScalar (name : String) (scalar : Scalar) : List Field → List Field
  | [] => [.mk name (.scalar scalar)]
  | field :: rest =>
    if field.name = name then .mk name (.scalar scalar) :: rest
    else field :: setScalar name scalar rest

/-- The nodes of all fields, in field order. -/
def children (fields : List Field) : List Node :=
  fields.flatMap fun field => field.value.children

end Fields

/-! ### Nodes -/

namespace Node

/-- What the node is, its fields apart. -/
def header : Node → Header
  | .mk header _ => header

/-- The fields, in order. -/
def fields : Node → List Field
  | .mk _ fields => fields

@[simp]
theorem header_mk (header : Header) (fields : List Field) :
    (Node.mk header fields).header = header := rfl

@[simp]
theorem fields_mk (header : Header) (fields : List Field) :
    (Node.mk header fields).fields = fields := rfl

/-- Identity within one tree. -/
def id (node : Node) : Nat := node.header.id

/-- The node's kind. -/
def kind (node : Node) : String := node.header.kind

/-- The span in the text the node came from. -/
def span? (node : Node) : Option Span := node.header.origin.map Origin.span

/-- The byte range of the node's slot in its parent's text. -/
def anchor (node : Node) : Option ByteRange := node.header.anchor

/-- The value of the first field of this name. -/
def get? (node : Node) (name : String) : Option Value :=
  Fields.get? name node.fields

/-- The child nodes, in field order. -/
def children (node : Node) : List Node :=
  Fields.children node.fields

/-- The text of the node's span, when the node was parsed. -/
def sourceText? (node : Node) : Option Text := do
  let origin ← node.header.origin
  Text.slice? origin.source origin.span.start origin.span.stop

/-- The node in another slot. -/
def withAnchor (node : Node) (anchor : Option ByteRange) : Node :=
  .mk { node.header with anchor } node.fields

/-- A node around one expression, made rather than parsed. -/
def wrapper (kind : String) (id : Nat) (expression : Node) : Node :=
  .mk { id, kind, origin := none, anchor := none } [.mk Kind.expressionField (.node expression)]

/-- The statement `expression;`. -/
def expressionStatement (id : Nat) (expression : Node) : Node :=
  wrapper "ExpressionStatement" id expression

/-- The expression `(expression)`. -/
def parenthesized (id : Nat) (expression : Node) : Node :=
  wrapper "ParenthesizedExpression" id expression

mutual

/-- The number of nodes of the subtree. -/
def size : Node → Nat
  | .mk _ fields => 1 + sizeOfFields fields

/-- The number of nodes below a list of fields. -/
def sizeOfFields : List Field → Nat
  | [] => 0
  | .mk _ (.node child) :: rest => child.size + sizeOfFields rest
  | .mk _ (.nodes children) :: rest => sizeOfNodes children + sizeOfFields rest
  | .mk _ (.scalar _) :: rest => sizeOfFields rest

/-- The number of nodes of a list of subtrees. -/
def sizeOfNodes : List Node → Nat
  | [] => 0
  | node :: rest => node.size + sizeOfNodes rest

end

mutual

/-- The copy of a subtree with fresh identities in pre-order from `next` on, and the first identity
not used. -/
def renumber : Node → Nat → Node × Nat
  | .mk header fields, next =>
    let (fields, after) := renumberFields fields (next + 1)
    (.mk { header with id := next } fields, after)

/-- The copy of a list of fields with fresh identities. -/
def renumberFields : List Field → Nat → List Field × Nat
  | [], next => ([], next)
  | .mk name (.node child) :: rest, next =>
    let (child, next) := child.renumber next
    let (rest, next) := renumberFields rest next
    (.mk name (.node child) :: rest, next)
  | .mk name (.nodes children) :: rest, next =>
    let (children, next) := renumberNodes children next
    let (rest, next) := renumberFields rest next
    (.mk name (.nodes children) :: rest, next)
  | .mk name (.scalar value) :: rest, next =>
    let (rest, next) := renumberFields rest next
    (.mk name (.scalar value) :: rest, next)

/-- The copy of a list of subtrees with fresh identities. -/
def renumberNodes : List Node → Nat → List Node × Nat
  | [], next => ([], next)
  | node :: rest, next =>
    let (node, next) := node.renumber next
    let (rest, next) := renumberNodes rest next
    (node :: rest, next)

end

end Node

/-- A parsed program: its root, the text it was parsed from, and the first identity not yet used. -/
structure Tree where
  root : Node
  source : Text
  nextId : Nat

namespace Tree

/-- The statements of the program. -/
def statements (tree : Tree) : List Node :=
  match tree.root.get? Kind.bodyField with
  | some value => value.children
  | none => []

/-- The number of nodes. -/
def size (tree : Tree) : Nat :=
  tree.root.size

end Tree

end SyntaxGraft
