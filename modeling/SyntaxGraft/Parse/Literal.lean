import SyntaxGraft.Number.Decimal
import SyntaxGraft.Text.Basic
/-!
# Literals

The values of JavaScript number and string literals.  A number may be written in decimal, or in
hexadecimal, octal or binary with a prefix, with `_` between digits; a prefixed number has to fit an
unsigned machine word.  A literal with the suffix `n` has no number value.  The value of a string
literal is the text between its quotes, escapes left as they are written.
-/

namespace SyntaxGraft.Literal

/-- The number a numeric literal denotes. -/
def number? (literal : Text) : Option Float :=
  let digits := literal.filter (· ≠ '_')
  if digits.getLast? = some 'n' then none
  else match digits.map Char.toLower with
    | '0' :: 'x' :: rest => (Number.word? 16 rest).map Number.Binary64.ofNat
    | '0' :: 'o' :: rest => (Number.word? 8 rest).map Number.Binary64.ofNat
    | '0' :: 'b' :: rest => (Number.word? 2 rest).map Number.Binary64.ofNat
    | lower => Number.float? lower

/-- The text of a string literal without its first and last byte. -/
def unquote (literal : Text) : Text :=
  if 2 ≤ Text.size literal then Text.slice literal 1 (Text.size literal - 1) else literal

end SyntaxGraft.Literal
