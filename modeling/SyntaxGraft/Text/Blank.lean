import SyntaxGraft.Text.Basic
/-!
# Blank characters

`isBlank` is the Unicode property White_Space.  To what `Char.isWhitespace` accepts it adds the form
feed, the vertical tab and the spaces beyond ASCII.
-/

namespace SyntaxGraft

/-- A character with the Unicode property White_Space. -/
def isBlank (c : Char) : Bool :=
  let n := c.toNat
  (9 ≤ n && n ≤ 13) || n == 0x20 || n == 0x85 || n == 0xA0 || n == 0x1680
    || (0x2000 ≤ n && n ≤ 0x200A) || n == 0x2028 || n == 0x2029 || n == 0x202F || n == 0x205F
    || n == 0x3000

namespace Text

/-- The text from its first character that is not blank. -/
def skipBlank (t : Text) : Text :=
  t.dropWhile isBlank

/-- The text up to its last character that is not blank. -/
def trimEnd (t : Text) : Text :=
  (t.reverse.dropWhile isBlank).reverse

/-- The text without the blanks around it. -/
def trim (t : Text) : Text :=
  trimEnd (skipBlank t)

/-- Every character is blank. -/
def isAllBlank (t : Text) : Bool :=
  t.all isBlank

end Text

end SyntaxGraft
