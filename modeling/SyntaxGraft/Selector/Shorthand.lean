import SyntaxGraft.Selector.Error
/-!
# The shorthand for identifiers

`#/body/flags` selects the identifiers whose name matches a regex, as
`Kind=Identifier[name=/body/flags]` does.  The body is cut out by one scan and never read as
selector text, so brackets and commas in it keep their meaning for the regex.  Everything after the
body is flags.
-/

namespace SyntaxGraft

/-- The regex of a shorthand selector. -/
structure Shorthand where
  body : Text
  flags : Text

namespace Shorthand

/-- The regex of a selector that begins as a shorthand, or nothing for any other selector. -/
def scan (selector : Text) : Option (Except SelectorError Shorthand) :=
  match selector with
  | '#' :: '/' :: rest =>
    match Regex.splitBody? rest with
    | some (body, flags) => some (.ok ⟨body, flags⟩)
    | none => some (.error (.unterminatedShorthand selector))
  | _ => none

/-- The selector that a shorthand stands for. -/
def expand (shorthand : Shorthand) : Except SelectorError SelectorList :=
  match Regex.compile shorthand.body shorthand.flags with
  | .ok pattern =>
    .ok [.compound (.mk (some "Identifier") [⟨["name"], .regex pattern false⟩] [])]
  | .error refusal => .error (.invalidRegex shorthand.body shorthand.flags refusal)

/-- The spelling of that selector. -/
def canonical (shorthand : Shorthand) : Text :=
  "Kind=Identifier[name=/".toList ++ shorthand.body ++ ['/'] ++ shorthand.flags ++ [']']

end Shorthand

end SyntaxGraft
