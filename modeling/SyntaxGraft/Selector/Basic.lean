import SyntaxGraft.Regex.Literal
import SyntaxGraft.Tree.Scalar
/-!
# The structure of selectors

A selector list holds alternatives.  An alternative is a chain of compounds joined by combinators;
the last compound is the subject, and everything to its left describes where the subject stands.  A
compound tests one node: its kind, its attributes and its pseudo-classes, some of which hold
selector lists themselves.
-/

namespace SyntaxGraft

/-! ### Attributes -/

/-- How an attribute is compared with a value. -/
inductive CompareOp where
  | eq
  | ne
  | lt
  | le
  | gt
  | ge
deriving DecidableEq

/-- The operator as it is written. -/
def CompareOp.symbol : CompareOp → String
  | .eq => "="
  | .ne => "!="
  | .lt => "<"
  | .le => "<="
  | .gt => ">"
  | .ge => ">="

/-- A value in a selector: its text, and the scalar it is read as. -/
structure AttributeValue where
  text : Text
  typed : Scalar

namespace AttributeValue

/-- A value in quotes is a string. -/
def quoted (text : Text) : AttributeValue :=
  ⟨text, .str (String.ofList text)⟩

/-- A text that begins the way numbers do. -/
def looksNumeric : Text → Bool
  | c :: _ => c.isDigit || c == '-' || c == '+' || c == '.'
  | [] => false

/-- A value without quotes: a truth value, null, a number, or else a string. -/
def bare (text : Text) : AttributeValue :=
  let string := Scalar.str (String.ofList text)
  let typed :=
    if text = "true".toList then .bool true
    else if text = "false".toList then .bool false
    else if text = "null".toList then .null
    else if looksNumeric text then ((Number.float? text).map Scalar.number).getD string
    else string
  ⟨text, typed⟩

end AttributeValue

/-- What is asked of an attribute. -/
inductive AttributeTest where
  | present
  | compare (op : CompareOp) (value : AttributeValue)
  | regex (pattern : Regex.Pattern) (negated : Bool)

/-- A test of what a field path leads to. -/
structure Attribute where
  path : List String
  test : AttributeTest

/-! ### Selectors -/

/-- How the node of a compound stands to the node of the next. -/
inductive Combinator where
  /-- `A B`: a proper ancestor. -/
  | descendant
  /-- `A > B`: the parent. -/
  | child
  /-- `A ~ B`: an earlier element of the same sequence. -/
  | sibling
  /-- `A + B`: the element just before in the same sequence. -/
  | adjacent
deriving DecidableEq

mutual

/-- Compounds joined by combinators, the subject last. -/
inductive Complex where
  | compound (subject : Compound)
  | combined (left : Complex) (combinator : Combinator) (subject : Compound)

/-- Tests of one node; without a kind any kind will do. -/
inductive Compound where
  | mk (kind : Option String) (attributes : List Attribute) (pseudos : List Pseudo)

/-- A test of a node in its place. -/
inductive Pseudo where
  | not (list : List Complex)
  /-- Some alternative matches here. -/
  | is (list : List Complex)
  /-- Some alternative matches at a proper descendant. -/
  | has (list : List Complex)
  | firstChild
  | lastChild
  /-- The element at a position counted from one. -/
  | nthChild (position : Nat)
  | nthLastChild (position : Nat)
  | statement
  | expression

end

/-- Alternatives: a node matches if one of them does. -/
abbrev SelectorList := List Complex

/-- No test at all. -/
def Compound.any : Compound := .mk none [] []

end SyntaxGraft
