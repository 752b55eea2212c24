import SyntaxGraft.Text.Basic
/-!
# Parse trees

The grammar of the language is outside this library: a parser hands over a parse tree for a text, as
a flat list of rows in pre-order, each with the number of its children.  `ParseTree.ofRows?` folds
the rows back into a tree.
-/

namespace SyntaxGraft

/-- What a parser says of a node. -/
inductive RowStatus where
  /-- A node with a production of its own. -/
  | named
  /-- A literal token. -/
  | token
  /-- Text that fits no production. -/
  | error
  /-- A production the parser had to make up. -/
  | missing
  /-- A token the parser had to make up. -/
  | missingToken
  deriving DecidableEq, Repr

/-- A node of a parse tree, without its children. -/
structure Row where
  /-- The production, or the token itself. -/
  production : String
  status : RowStatus
  /-- The field of the parent the node stands in. -/
  field : Option String
  start : Nat
  stop : Nat
  deriving DecidableEq, Repr

namespace RowStatus

/-- The status that a letter stands for. -/
def ofLetter? : String → Option RowStatus
  | "n" => some .named
  | "a" => some .token
  | "e" => some .error
  | "m" => some .missing
  | "M" => some .missingToken
  | _ => none

/-- The parser found no proper reading here. -/
def isFault : RowStatus → Bool
  | .named | .token => false
  | .error | .missing | .missingToken => true

/-- The node is not in the text. -/
def isMissing : RowStatus → Bool
  | .missing | .missingToken => true
  | _ => false

end RowStatus

/-- A parse tree. -/
inductive ParseTree where
  | mk (row : Row) (children : List ParseTree)

namespace ParseTree

/-- The node itself. -/
def row : ParseTree → Row
  | .mk row _ => row

/-- The children, in order. -/
def children : ParseTree → List ParseTree
  | .mk _ children => children

mutual

/-- The rows of a tree, in pre-order. -/
def rows : ParseTree → List Row
  | .mk row children => row :: rowsOfList children

/-- The rows of a list of trees. -/
def rowsOfList : List ParseTree → List Row
  | [] => []
  | tree :: rest => tree.rows ++ rowsOfList rest

end

/-- Reads `count` trees off a list of rows with their numbers of children.  The bound is on the
depth of the recursion; the number of rows is always enough. -/
def takeTrees : Nat → Nat → List (Row × Nat) → Option (List ParseTree × List (Row × Nat))
  | _, 0, rows => some ([], rows)
  | 0, _ + 1, _ => none
  | _ + 1, _ + 1, [] => none
  | bound + 1, count + 1, (row, arity) :: rows => do
    let (children, rows) ← takeTrees bound arity rows
    let (siblings, rows) ← takeTrees bound count rows
    return (.mk row children :: siblings, rows)

/-- The tree with these rows in pre-order, each with its number of children. -/
def ofRows? (rows : List (Row × Nat)) : Option ParseTree :=
  match takeTrees rows.length 1 rows with
  | some ([tree], []) => some tree
  | _ => none

/-- The tree of the empty text. -/
def emptyProgram : ParseTree :=
  .mk { production := "program", status := .named, field := none, start := 0, stop := 0 } []

end ParseTree

/-- A grammar: the parse tree of every text it can handle. -/
abbrev Grammar := Text → Option ParseTree

/-- The grammar that knows the trees of some texts, besides that of the empty text. -/
def Grammar.ofLookup (tree? : Text → Option ParseTree) : Grammar := fun text =>
  match tree? text with
  | some tree => some tree
  | none => if text.isEmpty then some .emptyProgram else none

end SyntaxGraft
