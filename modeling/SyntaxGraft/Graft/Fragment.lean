import SyntaxGraft.Parse.Convert
/-!
# Replacement fragments

A replacement text is reduced to one node, its representative, which is copied to every place where
something is replaced: `h()` and `h();` both stand for the call, `return x;` for the statement.  A
text without a statement, or with more than one, is refused.
-/

namespace SyntaxGraft

/-- Why a text is no replacement. -/
inductive FragmentError where
  | empty
  | multiple (count : Nat)
  | unparsed (error : SourceError)

/-- The error in words. -/
def FragmentError.message : FragmentError → String
  | .empty => "replacement contains no statement or expression"
  | .multiple count =>
    s!"replacement must be a single statement or expression, found {count} statements"
  | .unparsed error =>
    let reason := error.message
    s!"replacement does not parse: {reason}"

/-- The error that this one comes from, in words. -/
def FragmentError.cause? : FragmentError → Option String
  | .unparsed error => some error.message
  | _ => none

/-- A replacement: its text and the node that is copied. -/
structure Fragment where
  text : Text
  representative : Node

namespace Fragment

/-- The expression of an expression statement; any other node as it is. -/
def unwrap (statement : Node) : Node :=
  if statement.kind = "ExpressionStatement" then
    match statement.get? Kind.expressionField with
    | some (.node expression) => expression
    | _ => statement
  else statement

/-- The fragment of a parsed program. -/
def ofTree (tree : Tree) : Except FragmentError Fragment :=
  match tree.statements with
  | [] => .error .empty
  | [statement] => .ok ⟨tree.source, unwrap statement⟩
  | statements => .error (.multiple statements.length)

/-- The fragment of a replacement text. -/
def parse (grammar : Grammar) (text : Text) : Except FragmentError Fragment :=
  match Tree.parse grammar text with
  | .error error => .error (.unparsed error)
  | .ok tree => ofTree tree

/-- The fragment of a node that stands for itself. -/
def ofNode (node : Node) : Fragment :=
  ⟨node.sourceText?.getD [], unwrap node⟩

end Fragment

end SyntaxGraft
