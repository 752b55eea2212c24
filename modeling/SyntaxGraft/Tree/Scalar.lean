import SyntaxGraft.Number.Decimal
/-!
# Scalar values

What a field holds when it holds no node: a string, a number, a truth value or null.
-/

namespace SyntaxGraft

/-- A scalar field value. -/
inductive Scalar where
  | str (text : String)
  | number (value : Float)
  | bool (value : Bool)
  | null

namespace Scalar

/-- The scalar as text. -/
def text : Scalar → String
  | .str text => text
  | .number value => Number.formatFloat value
  | .bool true => "true"
  | .bool false => "false"
  | .null => "null"

/-- The number, of a number. -/
def number? : Scalar → Option Float
  | .number value => some value
  | _ => none

/-- The text, of a string. -/
def str? : Scalar → Option String
  | .str text => some text
  | _ => none

end Scalar

end SyntaxGraft
