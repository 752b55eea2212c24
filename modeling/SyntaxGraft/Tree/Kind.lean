import SyntaxGraft.Text.Basic
/-!
# Node kinds

A grammar names its productions in lower case with underscores (`call_expression`); a node's kind is
the same name in capitalised words (`CallExpression`).  Kinds are classified by name: identifiers,
statements, expressions, and the slots that hold sequences of statements.
-/

namespace SyntaxGraft.Kind

/-! ### Field names -/

/-- The field with the statements of a statement container. -/
def bodyField : String := "body"

/-- The field with the unnamed children of any other node. -/
def childrenField : String := "children"

/-- The field with the comments directly inside a node. -/
def commentsField : String := "comments"

/-- The field with the expression of an expression statement or of parentheses. -/
def expressionField : String := "expression"

/-! ### Names -/

/-- The word with its first character in upper case, when that is an ASCII letter. -/
def capitalize (word : List Char) : List Char :=
  match word with
  | [] => []
  | c :: rest => c.toUpper :: rest

/-- The node kind of a production: its words capitalised and joined. -/
def ofProduction (production : String) : String :=
  String.ofList ((Text.splitWords '_' production.toList).flatMap capitalize)

/-- The productions that spell an identifier. -/
def identifierProductions : List String :=
  ["identifier", "property_identifier", "private_property_identifier",
    "shorthand_property_identifier", "shorthand_property_identifier_pattern",
    "statement_identifier"]

/-- The kinds that the selector `Identifier` stands for. -/
def identifierKinds : List String :=
  ["Identifier", "PropertyIdentifier", "PrivatePropertyIdentifier", "ShorthandPropertyIdentifier",
    "ShorthandPropertyIdentifierPattern", "StatementIdentifier"]

/-- The production spells an identifier. -/
def isIdentifierProduction (production : String) : Bool :=
  identifierProductions.contains production

/-- A node of kind `kind` satisfies the kind test `wanted`: kinds match exactly, except that
`Identifier` covers properties, shorthands and labels too. -/
def satisfies (wanted kind : String) : Bool :=
  wanted == kind || (wanted == "Identifier" && identifierKinds.contains kind)

/-! ### Classes -/

/-- The kinds whose unnamed children are members of a body. -/
def bodyKinds : List String :=
  ["Program", "StatementBlock", "ClassBody", "SwitchBody"]

/-- The kinds that hold one expression. -/
def wrapperKinds : List String :=
  ["ExpressionStatement", "ParenthesizedExpression"]

/-- The field for the unnamed children of a node of this kind. -/
def unnamedField (kind : String) : String :=
  if bodyKinds.contains kind then bodyField
  else if wrapperKinds.contains kind then expressionField
  else childrenField

/-- Unnamed children of this kind form a sequence even when there is only one. -/
def unnamedAreSequence (kind : String) : Bool :=
  unnamedField kind != expressionField

/-- The kind ends in the given word. -/
def endsIn (word kind : String) : Bool :=
  word.toList.isSuffixOf kind.toList

/-- A statement or a declaration. -/
def isStatement (kind : String) : Bool :=
  endsIn "Statement" kind || endsIn "Declaration" kind || kind == "StatementBlock"

/-- The kinds of expressions whose names do not say so. -/
def plainExpressionKinds : List String :=
  ["Number", "String", "TemplateString", "Regex", "True", "False", "Null", "Undefined",
    "Identifier", "This", "Super", "Array", "Object", "ArrowFunction", "Class",
    "FunctionExpression", "GeneratorFunction"]

/-- An expression. -/
def isExpression (kind : String) : Bool :=
  endsIn "Expression" kind || plainExpressionKinds.contains kind

/-- The kinds whose body is a sequence of statements. -/
def statementContainers : List String :=
  ["Program", "StatementBlock", "SwitchCase", "SwitchDefault"]

/-- A child in `field` of a `parent` node stands directly in a sequence of statements. -/
def isStatementSlot (parent field : String) : Bool :=
  field == bodyField && statementContainers.contains parent

end SyntaxGraft.Kind
