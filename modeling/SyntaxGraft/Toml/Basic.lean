import SyntaxGraft.Text.Basic
/-!
# Documents of tables

The values of a TOML document.  A table remembers how it came about, because that decides what may
be added to it later: a table that a header names can be named only once, and a table in braces is
closed.
-/

namespace SyntaxGraft.Toml

/-- How a table came about. -/
inductive TableKind where
  /-- As a step on the way of a header. -/
  | passed
  /-- By a header of its own. -/
  | named
  /-- By a dotted key. -/
  | dotted
  /-- In braces. -/
  | inline
deriving DecidableEq

mutual

/-- A value of a document. -/
inductive Value where
  | string (text : Text)
  /-- A number, a truth value, or a date or time, as it is written. -/
  | plain (text : Text)
  /-- An array; `grows` if it is made of headers in double brackets. -/
  | array (grows : Bool) (elements : List Value)
  | table (kind : TableKind) (entries : List Entry)

/-- A key with its value. -/
inductive Entry where
  | mk (key : Text) (value : Value)

end

namespace Entry

/-- The key. -/
def key : Entry → Text
  | .mk key _ => key

/-- The value. -/
def value : Entry → Value
  | .mk _ value => value

end Entry

/-- The value under a key. -/
def find? (key : Text) (entries : List Entry) : Option Value :=
  (entries.find? fun entry => entry.key = key).map Entry.value

/-- The entries with the value under a key replaced. -/
def set (key : Text) (value : Value) (entries : List Entry) : List Entry :=
  entries.map fun entry => if entry.key = key then .mk key value else entry

namespace Value

/-- A table with nothing in it. -/
def emptyTable (kind : TableKind) : Value := .table kind []

/-- The value with a change made at the end of a path of keys.  A missing step becomes a table.
The way goes through tables, and through the last table of a growing array; a dotted key, moreover,
passes no table that a header names, and no table in braces is changed. -/
def change (isDotted : Bool) (act : Value → Option Value) : List Text → Value → Option Value
  | [], value => act value
  | key :: rest, .table kind entries =>
    match find? key entries with
    | none => do
      let added ← change isDotted act rest
        (emptyTable (if isDotted then .dotted else .passed))
      return .table kind (entries ++ [.mk key added])
    | some (.table childKind childEntries) =>
      if childKind = .inline || isDotted && childKind = .named then none
      else do
        let changed ← change isDotted act rest (.table childKind childEntries)
        return .table kind (set key changed entries)
    | some (.array true elements) =>
      match elements.reverse with
      | [] => none
      | last :: before => do
        let changed ← change isDotted act rest last
        return .table kind (set key (.array true (before.reverse ++ [changed])) entries)
    | some _ => none
  | _ :: _, _ => none

/-- The table with a new entry. -/
def addEntry (key : Text) (value : Value) : Value → Option Value
  | .table kind entries =>
    if (find? key entries).isSome then none else some (.table kind (entries ++ [.mk key value]))
  | _ => none

/-- The table with a value under a dotted key, whose steps may not end in a table that is part of a
header. -/
def assign (keys : List Text) (value : Value) (table : Value) : Option Value :=
  match keys.reverse with
  | [] => none
  | key :: [] => addEntry key value table
  | key :: steps =>
    change true (fun target =>
      match target with
      | .table .dotted _ => addEntry key value target
      | _ => none) steps.reverse table

/-- The table with a table that a header names. -/
def openTable (key : Text) : Value → Option Value
  | .table kind entries =>
    match find? key entries with
    | none => some (.table kind (entries ++ [.mk key (emptyTable .named)]))
    | some (.table .passed childEntries) =>
      some (.table kind (set key (.table .named childEntries) entries))
    | some _ => none
  | _ => none

/-- The table with one more table in the array that a header in double brackets names. -/
def openElement (key : Text) : Value → Option Value
  | .table kind entries =>
    match find? key entries with
    | none => some (.table kind (entries ++ [.mk key (.array true [emptyTable .named])]))
    | some (.array true elements) =>
      some (.table kind (set key (.array true (elements ++ [emptyTable .named])) entries))
    | some _ => none
  | _ => none

end Value

end SyntaxGraft.Toml
