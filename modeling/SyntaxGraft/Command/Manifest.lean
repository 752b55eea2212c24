import SyntaxGraft.Number.Digits
import SyntaxGraft.Parse.Row
import SyntaxGraft.Toml.Reader
/-!
# Manifests of a working directory

What a parser prepares for a run: a document that lists the files of the working directory under
`files`, and under `trees` a table for each text that it parsed, with the `text` and the `rows` of
its tree in pre-order.  A row lists the production, the letter of its status, the field (empty if
there is none), the offsets of its start and end, and the number of its children.
-/

namespace SyntaxGraft.Command

/-- The files of a working directory, and the trees of texts. -/
structure Manifest where
  files : List Text := []
  trees : List (Text × ParseTree) := []

namespace Manifest

/-- The text of a string. -/
def text? : Toml.Value → Option Text
  | .string text => some text
  | _ => none

/-- A natural number. -/
def number? : Toml.Value → Option Nat
  | .plain text => Number.word? 10 text
  | _ => none

/-- The elements of an array. -/
def elements? : Toml.Value → Option (List Toml.Value)
  | .array _ elements => some elements
  | _ => none

/-- A row with its number of children. -/
def row? (value : Toml.Value) : Option (Row × Nat) := do
  match ← elements? value with
  | [production, letter, field, start, stop, children] =>
    let field ← text? field
    let row : Row := {
      production := String.ofList (← text? production)
      status := ← RowStatus.ofLetter? (String.ofList (← text? letter))
      field := if field.isEmpty then none else some (String.ofList field)
      start := ← number? start
      stop := ← number? stop }
    return (row, ← number? children)
  | _ => none

/-- A text with its tree. -/
def tree? : Toml.Value → Option (Text × ParseTree)
  | .table _ entries => do
    let text ← (Toml.find? "text".toList entries).bind text?
    let rows ← (Toml.find? "rows".toList entries).bind elements?
    return (text, ← ParseTree.ofRows? (← rows.mapM row?))
  | _ => none

/-- The manifest that a document spells. -/
def read? (document : Text) : Option Manifest := do
  let entries ← Toml.read? document
  let listed (key : String) : Option (List Toml.Value) :=
    match Toml.find? key.toList entries with
    | none => some []
    | some value => elements? value
  return { files := ← (← listed "files").mapM text?, trees := ← (← listed "trees").mapM tree? }

/-- The grammar that knows the trees of the manifest. -/
def grammar (manifest : Manifest) : Grammar :=
  .ofLookup fun text => manifest.trees.lookup text

end Manifest

end SyntaxGraft.Command
