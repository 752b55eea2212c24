import SyntaxGraft.Rules.Basic
import SyntaxGraft.Toml.Reader
/-!
# Rule files as documents

A rule file is a document with a table `meta` and an array `rules`.  No other key is allowed
anywhere. Where a table of known keys is wanted, an array will do that lists the values in the
order of the keys; values beyond the last key are passed over.
-/

namespace SyntaxGraft

/-- Why a text is no rule file. -/
inductive RuleFileError where
  /-- It is no document, or one of another shape. -/
  | malformed
  | invalid (issues : List Issue)

namespace RuleFile

/-- The text of a string. -/
def text? : Toml.Value → Option Text
  | .string text => some text
  | _ => none

/-- The values of a record with known keys, in the order of the keys. -/
def record? (keys : List Text) : Toml.Value → Option (List (Option Toml.Value))
  | .table _ entries =>
    if entries.all fun entry => keys.contains entry.key then
      some (keys.map fun key => Toml.find? key entries)
    else none
  | .array _ elements => some (keys.mapIdx fun index _ => elements[index]?)
  | _ => none

/-- The text of a field that may be missing. -/
def optional? : Option Toml.Value → Option (Option Text)
  | none => some none
  | some value => (text? value).map some

/-- The keys of a rule. -/
def ruleKeys : List Text :=
  ["id".toList, "selector".toList, "replacement".toList, "mode".toList, "description".toList]

/-- A rule; its identity, selector and replacement have to be there. -/
def rule? (value : Toml.Value) : Option Rule := do
  match ← record? ruleKeys value with
  | [some id, some selector, some replacement, mode, description] =>
    return {
      id := ← text? id
      selector := ← text? selector
      replacement := ← text? replacement
      mode := ← optional? mode
      description := ← optional? description }
  | _ => none

/-- The keys of what is said about a file. -/
def metaKeys : List Text := ["name".toList, "description".toList]

/-- The name and the description of a file. -/
def meta? : Option Toml.Value → Option (Text × Option Text)
  | none => some ([], none)
  | some value => do
    match ← record? metaKeys value with
    | [name, description] => return ((← optional? name).getD [], ← optional? description)
    | _ => none

/-- The rules of a file. -/
def rules? : Option Toml.Value → Option (List Rule)
  | none => some []
  | some (.array _ elements) => elements.mapM rule?
  | some _ => none

/-- The keys of a file. -/
def fileKeys : List Text := ["meta".toList, "rules".toList]

/-- The rule file that a document spells. -/
def ofDocument? (entries : List Toml.Entry) : Option RuleFile := do
  guard (entries.all fun entry => fileKeys.contains entry.key)
  let (name, description) ← meta? (Toml.find? "meta".toList entries)
  let rules ← rules? (Toml.find? "rules".toList entries)
  return { name, description, rules }

/-- The rule file of a text, if nothing is wrong with it. -/
def read (text : Text) : Except RuleFileError RuleFile :=
  match (Toml.read? text).bind ofDocument? with
  | none => .error .malformed
  | some file =>
    match file.issues with
    | [] => .ok file
    | issues => .error (.invalid issues)

end RuleFile

end SyntaxGraft
