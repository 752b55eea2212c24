import SyntaxGraft.Text.Blank
/-!
# Matching modes

The languages in which one can say what to match.  There is one so far, under three names.
-/

namespace SyntaxGraft

/-- A language that describes nodes. -/
inductive Mode where
  /-- Selectors, with the shorthand for identifiers. -/
  | selector
deriving DecidableEq, Inhabited

namespace Mode

/-- The name a mode is shown under. -/
def name : Mode → String
  | .selector => "selector"

/-- The names of the selector mode. -/
def selectorNames : List Text :=
  ["selector".toList, "css".toList, "esquery".toList]

/-- The mode of a name; blanks around it and the case of its letters do not count. -/
def ofName? (name : Text) : Option Mode :=
  if selectorNames.contains ((Text.trim name).map Char.toLower) then some .selector else none

/-- What is said of a name that no mode has. -/
def unsupportedMessage (name : Text) : String :=
  let shown := String.ofList name
  s!"unsupported matching mode '{shown}' (supported: selector)"

end Mode

end SyntaxGraft
