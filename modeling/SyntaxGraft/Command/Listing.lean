import SyntaxGraft.Command.Request
import SyntaxGraft.Number.Digits
import SyntaxGraft.Tree.Print
/-!
# Lists of matches

The matches of all inputs as lines, as numbers, or as a JSON document.
-/

namespace SyntaxGraft.Command

/-! ### JSON -/

/-- A control character that has no short spelling, by its number. -/
def jsonControl (c : Char) : Text :=
  let digit (n : Nat) : Char := Nat.digitChar n
  ['\\', 'u', '0', '0', digit (c.toNat / 16), digit (c.toNat % 16)]

/-- A character inside a JSON string. -/
def jsonChar (c : Char) : Text :=
  if c = '"' then ['\\', '"']
  else if c = '\\' then ['\\', '\\']
  else if c = '\n' then ['\\', 'n']
  else if c = '\r' then ['\\', 'r']
  else if c = '\t' then ['\\', 't']
  else if c = '\x08' then ['\\', 'b']
  else if c = '\x0c' then ['\\', 'f']
  else if c.toNat < 32 then jsonControl c
  else [c]

/-- A JSON string. -/
def jsonString (text : Text) : Text :=
  '"' :: text.flatMap jsonChar ++ ['"']

/-- The texts with another between them. -/
def separated (separator : Text) (texts : List Text) : Text :=
  (texts.intersperse separator).flatten

/-- A member of a JSON object. -/
def jsonMember (name : String) (value : Text) : Text :=
  "    ".toList ++ jsonString name.toList ++ ": ".toList ++ value

/-- A match as an object, its members in the order of their names. -/
def jsonMatch (label : Text) (node : Node) : Text :=
  let number (part : Span → Nat) : Text := Number.decimal ((node.span?.map part).getD 0)
  let members := [
    jsonMember "column" (number Span.column),
    jsonMember "end" (number Span.stop),
    jsonMember "file" (jsonString label),
    jsonMember "kind" (jsonString node.kind.toList),
    jsonMember "line" (number Span.line),
    jsonMember "start" (number Span.start),
    jsonMember "text" (jsonString node.print)]
  "  \x7b\n".toList ++ separated ",\n".toList members ++ "\n  \x7d".toList

/-- A JSON array of objects. -/
def jsonArray (objects : List Text) : Text :=
  if objects.isEmpty then "[]\n".toList
  else "[\n".toList ++ separated ",\n".toList objects ++ "\n]\n".toList

/-! ### Listings -/

/-- The matches of an input. -/
structure Found where
  label : Text
  nodes : List Node

/-- A match as a line: the input, the place, and the first line of the text. -/
def matchLine (label : Text) (node : Node) : Text :=
  let (line, column) := (node.span?.map fun span => (span.line, span.column)).getD (0, 0)
  label ++ ':' :: Number.decimal line ++ ':' :: Number.decimal column ++ [':', ' ']
    ++ Text.firstLine node.print ++ ['\n']

/-- The matches of all inputs. -/
def Listing.render (listing : Listing) (found : List Found) : Text :=
  match listing with
  | .lines => found.flatMap fun one => one.nodes.flatMap (matchLine one.label)
  | .count => found.flatMap fun one => one.label ++ ':' :: Number.decimal one.nodes.length ++ ['\n']
  | .json => jsonArray (found.flatMap fun one => one.nodes.map (jsonMatch one.label))

end SyntaxGraft.Command
