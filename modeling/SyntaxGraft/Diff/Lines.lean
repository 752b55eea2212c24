import SyntaxGraft.Diff.Compact
import SyntaxGraft.Diff.Script
import SyntaxGraft.Text.Basic
/-!
# Changes between texts, line by line

A line ends after a line feed, after a carriage return, or after both in this order.  The lines of a
change are shown with a sign in front; between two kept lines the deleted ones come before those
inserted.

`flatten_lines`: the lines of a text make up the text.
-/

namespace SyntaxGraft.Diff

/-- The lines of a text with their ends.  `line` is what was read of the first line, backwards. -/
def linesFrom (line : Text) : Text → List Text
  | [] => if line.isEmpty then [] else [line.reverse]
  | '\r' :: '\n' :: rest => ('\n' :: '\r' :: line).reverse :: linesFrom [] rest
  | c :: rest =>
    if c = '\n' ∨ c = '\r' then (c :: line).reverse :: linesFrom [] rest
    else linesFrom (c :: line) rest

/-- The lines of a text with their ends. -/
def lines (text : Text) : List Text :=
  linesFrom [] text

theorem flatten_linesFrom (line text : Text) :
    (linesFrom line text).flatten = line.reverse ++ text := by
  fun_induction linesFrom line text <;> simp_all

theorem flatten_lines (text : Text) : (lines text).flatten = text := by
  simp [lines, flatten_linesFrom]

/-! ### Showing changes -/

/-- The line with an end, one being added where there is none. -/
def ended (line : Text) : Text :=
  match line.getLast? with
  | some c => if c = '\n' ∨ c = '\r' then line else line ++ ['\n']
  | none => ['\n']

/-- Lines with a sign in front of each. -/
def signed (sign : Char) (lines : List Text) : Text :=
  lines.flatMap fun line => sign :: ended line

/-- The runs shown; `deleted` and `inserted` are those lines since the last kept one. -/
def showFrom (deleted inserted : List Text) : List (Run Text) → Text
  | [] => signed '-' deleted ++ signed '+' inserted
  | ⟨.keep, kept⟩ :: rest =>
    signed '-' deleted ++ signed '+' inserted ++ signed ' ' kept ++ showFrom [] [] rest
  | ⟨.delete, more⟩ :: rest => showFrom (deleted ++ more) inserted rest
  | ⟨.insert, more⟩ :: rest => showFrom deleted (inserted ++ more) rest

/-- The change of one text to another, line by line. -/
def render (old new : Text) : Text :=
  showFrom [] [] (compact (script (lines old) (lines new)))

end SyntaxGraft.Diff
