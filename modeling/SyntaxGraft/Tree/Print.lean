import SyntaxGraft.Tree.Node
/-!
# Printing with the least change

A node that was parsed prints the text of its span, with the printed form of each child put over the
child's anchor.  What no child covers comes out byte for byte.  A node that was made rather than
parsed has no text and prints from its kind.
-/

namespace SyntaxGraft

/-- The printed form of a child, with the slot it fills. -/
structure Piece where
  anchor : Option ByteRange
  text : Text

/-- The printed form of a field's children. -/
inductive PrintedValue where
  | one (piece : Piece)
  | many (pieces : List Piece)
  | none

namespace PrintedValue

/-- The pieces, in order. -/
def pieces : PrintedValue → List Piece
  | .one piece => [piece]
  | .many pieces => pieces
  | .none => []

end PrintedValue

namespace Printing

/-- Puts a text into a list sorted by start, before those that start at the same place. -/
def insertByStart (entry : ByteRange × Text) : List (ByteRange × Text) → List (ByteRange × Text)
  | [] => [entry]
  | first :: rest =>
    if entry.1.start ≤ first.1.start then entry :: first :: rest
    else first :: insertByStart entry rest

/-- The texts in order of their starts; those that start at the same place keep their order. -/
def sortByStart (entries : List (ByteRange × Text)) : List (ByteRange × Text) :=
  entries.foldr insertByStart []

/-- The source from `cursor` to `stop` with each text put over its range.  A range that reaches back
over the cursor or beyond the end is passed over. -/
def splice (source : Text) (stop : Nat) : Nat → List (ByteRange × Text) → Text
  | cursor, [] => Text.slice source cursor stop
  | cursor, (range, text) :: rest =>
    if range.start < cursor || stop < range.stop then splice source stop cursor rest
    else Text.slice source cursor range.start ++ text ++ splice source stop range.stop rest

/-- Texts with a blank between neighbours. -/
def joinSpaced : List Text → Text
  | [] => []
  | [text] => text
  | text :: rest => text ++ ' ' :: joinSpaced rest

/-- The first field of a name, printed. -/
def get? (name : String) : List (String × PrintedValue) → Option PrintedValue
  | [] => none
  | (other, value) :: rest => if other = name then some value else get? name rest

/-- The text of a node that was made rather than parsed. -/
def synthesize (kind : String) (fields : List (String × PrintedValue)) : Text :=
  match kind, get? Kind.expressionField fields with
  | "ExpressionStatement", some (.one expression) => expression.text ++ [';']
  | "ParenthesizedExpression", some (.one expression) => '(' :: expression.text ++ [')']
  | _, _ => joinSpaced ((fields.flatMap fun field => field.2.pieces).map Piece.text)

/-- The text of a node, given the printed form of its fields. -/
def assemble (header : Header) (fields : List (String × PrintedValue)) : Text :=
  match header.origin with
  | some origin =>
    let pieces := fields.flatMap fun field => field.2.pieces
    let anchored := pieces.filterMap fun piece => piece.anchor.map fun range => (range, piece.text)
    splice origin.source origin.span.stop origin.span.start (sortByStart anchored)
  | none => synthesize header.kind fields

end Printing

namespace Node

mutual

/-- The text of a node. -/
def print : Node → Text
  | .mk header fields => Printing.assemble header (printFields fields)

/-- The fields, printed. -/
def printFields : List Field → List (String × PrintedValue)
  | [] => []
  | .mk name (.node child) :: rest =>
    (name, .one ⟨child.anchor, child.print⟩) :: printFields rest
  | .mk name (.nodes children) :: rest => (name, .many (printNodes children)) :: printFields rest
  | .mk name (.scalar _) :: rest => (name, .none) :: printFields rest

/-- A sequence of nodes, printed. -/
def printNodes : List Node → List Piece
  | [] => []
  | node :: rest => ⟨node.anchor, node.print⟩ :: printNodes rest

end

end Node

/-- The text of a whole tree: the root over its anchor, with what stands before and after it. -/
def Tree.print (tree : Tree) : Text :=
  match tree.root.anchor with
  | some anchor =>
    if anchor.stop ≤ Text.size tree.source then
      Text.slice tree.source 0 anchor.start ++ tree.root.print
        ++ Text.slice tree.source anchor.stop (Text.size tree.source)
    else
      tree.root.print
  | none => tree.root.print

end SyntaxGraft
