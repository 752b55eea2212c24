import SyntaxGraft.Parse.Literal
import SyntaxGraft.Parse.Row
import SyntaxGraft.Tree.Node
/-!
# From parse trees to syntax trees

A parse tree becomes a syntax tree with one node for each named node, numbered in pre-order.  A
named child goes into its grammar field, or into the field for unnamed children of its parent's
kind; comments are kept apart; a token in a field becomes a string.  Leaves get their text as
scalars.

A parse tree with faults is refused: the first fault, in pre-order, is reported with the number of
all faults.
-/

namespace SyntaxGraft

/-! ### Faults -/

/-- A text that could not be parsed. -/
inductive SourceError where
  /-- The grammar gave no tree at all. -/
  | unparsed
  /-- The first of `count` faults. -/
  | fault (span : Span) (context : Text) (count : Nat)

namespace SourceError

/-- The error in words. -/
def message : SourceError → String
  | .unparsed => "failed to parse source code"
  | .fault span context count =>
    let shown := String.ofList context
    s!"syntax error at {span.line}:{span.column} near `{shown}` ({count} error node(s))"

end SourceError

namespace Row

/-- The span of a node in its text. -/
def spanIn (row : Row) (text : Text) : Span :=
  let (line, column) := Text.locate text row.start
  ⟨row.start, row.stop, line, column⟩

/-- The text of a node. -/
def textIn (row : Row) (text : Text) : Text :=
  Text.slice text row.start row.stop

end Row

namespace Parse

/-- A context longer than this is cut. -/
def contextLimit : Nat := 50

/-- The text shown for a fault. -/
def faultContext (text : Text) (row : Row) : Text :=
  if row.status.isMissing then "missing ".toList ++ row.production.toList
  else
    let context := row.textIn text
    if contextLimit < context.length then context.take (contextLimit - 3) ++ "...".toList
    else context

/-- The error of a parse tree with faults. -/
def fault? (text : Text) (tree : ParseTree) : Option SourceError :=
  match tree.rows.filter fun row => row.status.isFault with
  | [] => none
  | first :: rest =>
    some (.fault (first.spanIn text) (faultContext text first) (rest.length + 1))

/-! ### Conversion -/

/-- The scalars that a node gets from its own text, after its children's fields. -/
def attachScalars (row : Row) (text : Text) (isLeaf : Bool) (fields : List Field) : List Field :=
  let literal := row.textIn text
  let raw := Scalar.str (String.ofList literal)
  if Kind.isIdentifierProduction row.production then Fields.setScalar "name" raw fields
  else match row.production with
    | "number" =>
      let value := match Literal.number? literal with
        | some value => Scalar.number value
        | none => raw
      Fields.setScalar "raw" raw (Fields.setScalar "value" value fields)
    | "string" =>
      let value := Scalar.str (String.ofList (Literal.unquote literal))
      Fields.setScalar "raw" raw (Fields.setScalar "value" value fields)
    | "true" => Fields.setScalar "value" (.bool true) fields
    | "false" => Fields.setScalar "value" (.bool false) fields
    | "null" => Fields.setScalar "value" .null fields
    | _ => if isLeaf then Fields.setScalar "raw" raw fields else fields

/-- The fields with a named child added. -/
def addChild (kind : String) (row : Row) (child : Node) (fields : List Field) : List Field :=
  if row.production = "comment" then Fields.addToSequence Kind.commentsField child fields
  else match row.field with
    | some name =>
      if Kind.isStatementSlot kind name then Fields.addToSequence name child fields
      else Fields.addNode name child fields
    | none =>
      let name := Kind.unnamedField kind
      if Kind.unnamedAreSequence kind then Fields.addToSequence name child fields
      else Fields.addNode name child fields

/-- The fields with a token added: a token in no field leaves no trace. -/
def addToken (row : Row) (text : Text) (fields : List Field) : List Field :=
  match row.field with
  | some name => Fields.setScalar name (.str (String.ofList (row.textIn text))) fields
  | none => fields

/-- The node is one of its own, and not a token. -/
def isNamed (tree : ParseTree) : Bool :=
  tree.row.status = .named

mutual

/-- The node of a parse tree, numbered in pre-order from `next` on, and the first number not
used. -/
def convert (text : Text) : ParseTree → Nat → Node × Nat
  | .mk row children, next =>
    let kind := Kind.ofProduction row.production
    let span := row.spanIn text
    let (fields, after) := convertChildren text kind children [] (next + 1)
    let isLeaf := !children.any isNamed
    let header : Header :=
      { id := next, kind, origin := some ⟨text, span⟩, anchor := some span.range }
    (.mk header (attachScalars row text isLeaf fields), after)

/-- The fields with all children added, numbered from `next` on. -/
def convertChildren (text : Text) (kind : String) :
    List ParseTree → List Field → Nat → List Field × Nat
  | [], fields, next => (fields, next)
  | tree :: rest, fields, next =>
    if isNamed tree then
      let (child, next) := convert text tree next
      convertChildren text kind rest (addChild kind tree.row child fields) next
    else
      convertChildren text kind rest (addToken tree.row text fields) next

end

end Parse

namespace Tree

/-- The syntax tree of a parse tree without faults. -/
def ofParseTree (text : Text) (parsed : ParseTree) : Tree :=
  let (root, nextId) := Parse.convert text parsed 0
  { root, source := text, nextId }

/-- The syntax tree of a text. -/
def parse (grammar : Grammar) (text : Text) : Except SourceError Tree :=
  match grammar text with
  | none => .error .unparsed
  | some parsed =>
    match Parse.fault? text parsed with
    | some error => .error error
    | none => .ok (ofParseTree text parsed)

end Tree

end SyntaxGraft
