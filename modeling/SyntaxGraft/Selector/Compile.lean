import SyntaxGraft.Selector.Match
import SyntaxGraft.Selector.Reader
import SyntaxGraft.Selector.Shorthand
/-!
# Selectors

A selector is a text with the selector list it spells.  The empty text is a selector that matches
nothing.
-/

namespace SyntaxGraft

/-- A selector: its text, and what it selects by. -/
structure Selector where
  text : Text
  /-- The alternatives; none for the selector that matches nothing. -/
  list : Option SelectorList

namespace Selector

/-- The selector of the empty text. -/
def empty : Selector := ⟨[], none⟩

/-- Nothing can match. -/
def isEmpty (selector : Selector) : Bool :=
  selector.list.isNone

/-- The selector that a text spells, in the shorthand or in full. -/
def compile (text : Text) : Except SelectorError Selector :=
  if text.isEmpty then .ok empty
  else match Shorthand.scan text with
    | some (.ok shorthand) => shorthand.expand.map fun list => ⟨text, some list⟩
    | some (.error error) => .error error
    | none => (SelectorReader.readList text).map fun list => ⟨text, some list⟩

/-- The matching nodes from a root on, in pre-order.  Combinators see nothing above the root. -/
def evaluateFrom (selector : Selector) (root : Node) : List Node :=
  match selector.list with
  | some list => (SelectorList.select list root).map Occurrence.node
  | none => []

/-- The matching nodes of a tree, in pre-order. -/
def evaluate (selector : Selector) (tree : Tree) : List Node :=
  selector.evaluateFrom tree.root

end Selector

end SyntaxGraft
