import SyntaxGraft.Regex.Automaton
import SyntaxGraft.Regex.Bracket
/-!
# Reading patterns

`Pattern.read?` reads a whole text as a pattern.  Alternatives, sequences and repetitions are read
by one loop over the items of a group; a group is read by the same loop one level down.

A pattern is refused if it nests too deeply or if an automaton for it would be too large.
-/

namespace SyntaxGraft.Regex

open Unicode (CharSet)

/-- One item of a sequence. -/
structure Item where
  pattern : Pattern
  depth : Nat
  /-- A repetition may follow; none follows a change of flags. -/
  isRepeatable : Bool := true

/-- What is left to read, and what is known so far. -/
structure Reading where
  rest : Text
  flags : Flags
  /-- The names of groups that are taken. -/
  names : List Text := []

namespace Reader

/-- The deepest nesting. -/
def depthLimit : Nat := 250

/-- The largest number of a repetition. -/
def countLimit : Nat := Nat.pow 2 32 - 1

/-! ### Single characters -/

/-- The pattern of one character.  Outside Unicode a character beyond ASCII has no other case. -/
def literal (flags : Flags) (c : Char) : Pattern :=
  let set := CharSet.single c.toNat
  .one (if flags.unicode || c.toNat < 128 then flags.fold set else set)

/-- The pattern of a dot: any character, or any that ends no line.  Outside Unicode it would match
bytes that are no characters. -/
def dot? (flags : Flags) : Option Pattern :=
  if !flags.unicode then none
  else if flags.dotAll then some (.one .all)
  else if flags.crlf then some (.one (CharSet.ofCodes [10, 13]).compl)
  else some (.one (CharSet.single 10).compl)

/-- The pattern of `^`. -/
def lineStart (flags : Flags) : Pattern :=
  .look (if flags.multiLine then (if flags.crlf then .lineStartCrlf else .lineStart)
    else .textStart)

/-- The pattern of `$`. -/
def lineEnd (flags : Flags) : Pattern :=
  .look (if flags.multiLine then (if flags.crlf then .lineEndCrlf else .lineEnd) else .textEnd)

/-! ### Repetitions -/

/-- The decimal digits that open a text.  The first argument bounds their number. -/
def digits (flags : Flags) : Nat → Text → List Char × Text
  | 0, t => ([], t)
  | _, [] => ([], [])
  | bound + 1, c :: rest =>
    if c.isDigit then
      let (more, rest) := digits flags bound (flags.skip rest)
      (c :: more, rest)
    else ([], c :: rest)

/-- A decimal number with blanks around it. -/
def count (flags : Flags) (t : Text) : Option Nat × Text :=
  let rest := t.dropWhile isBlank
  let (word, rest) := digits flags rest.length rest
  let number := if word.isEmpty then none else Number.digitsValue? 10 word
  (number.filter (· ≤ countLimit), rest.dropWhile isBlank)

/-- The bounds of a counted repetition, the opening brace already read. -/
def counts (flags : Flags) (t : Text) : Option ((Nat × Option Nat) × Text) := do
  let (least, rest) := count flags (flags.skip t)
  let least ← least
  match rest with
  | '}' :: rest => return ((least, some least), rest)
  | ',' :: rest =>
    match flags.skip rest with
    | '}' :: rest => return ((least, none), rest)
    | rest =>
      let (most, rest) := count flags rest
      let most ← most
      guard (least ≤ most)
      let '}' :: rest := rest | none
      return ((least, some most), rest)
  | _ => none

/-- Whether a repetition matches as much as it can, and the text after the mark that turns this
round. -/
def greed (flags : Flags) : Text → Bool × Text
  | '?' :: rest => (flags.swapGreed, rest)
  | rest => (!flags.swapGreed, rest)

/-- The items with the last one repeated; the last comes first in the list. -/
def repeatLast (items : List Item) (least : Nat) (most : Option Nat) (greedy : Bool) :
    Option (List Item) :=
  match items with
  | item :: items =>
    if item.isRepeatable then
      some (⟨.rep item.pattern least most greedy, item.depth + 1, true⟩ :: items)
    else none
  | [] => none

/-! ### Groups -/

/-- One flag with its value. -/
def setFlag? (flags : Flags) (letter : Char) (value : Bool) : Option Flags :=
  match letter with
  | 'i' => some { flags with ignoreCase := value }
  | 'm' => some { flags with multiLine := value }
  | 's' => some { flags with dotAll := value }
  | 'u' => some { flags with unicode := value }
  | 'R' => some { flags with crlf := value }
  | 'x' => some { flags with verbose := value }
  | 'U' => some { flags with swapGreed := value }
  | _ => none

/-- The flags written before `:` or `)`, none of them twice; a hyphen turns off those after it.
`seen` holds the characters already read, the last first. -/
def readFlags (flags : Flags) (seen : List Char) : Text → Option (Flags × List Char × Text)
  | [] => none
  | c :: rest =>
    if c == ':' || c == ')' then
      if seen.head? = some '-' then none else some (flags, seen, c :: rest)
    else if seen.contains c then none
    else if c == '-' then readFlags flags (c :: seen) rest
    else do
      let flags ← setFlag? flags c (!seen.contains '-')
      readFlags flags (c :: seen) rest

/-- A character of a group's name. -/
def isNameChar (first : Bool) (c : Char) : Bool :=
  if first then c == '_' || Unicode.isAlphabetic c
  else c == '_' || c == '.' || c == '[' || c == ']' || Unicode.isAlphanumeric c

/-- The name of a group, up to the bracket that ends it. -/
def groupName (t : Text) : Option (Text × Text) := do
  let (name, rest) ← Escape.splitOnce ['>'] t
  let first :: more := name | none
  guard (isNameChar true first && more.all (isNameChar false))
  return (name, rest)

/-- The opening of a group: the flags inside it, or a change of flags for what follows. -/
inductive Opening where
  | capture (reading : Reading)
  | plain (reading : Reading)
  | change (reading : Reading)

/-- A named group, from its name on. -/
def namedGroup (reading : Reading) (t : Text) : Option Opening := do
  let (name, rest) ← groupName t
  guard (!reading.names.contains name)
  return .capture { reading with rest, names := name :: reading.names }

/-- What opens a group, the parenthesis already read.  Looking around is no part of the
language. -/
def opening (reading : Reading) : Option Opening :=
  match reading.flags.skip reading.rest with
  | '?' :: '=' :: _ | '?' :: '!' :: _ | '?' :: '<' :: '=' :: _ | '?' :: '<' :: '!' :: _ => none
  | '?' :: 'P' :: '<' :: rest => namedGroup reading rest
  | '?' :: '<' :: rest => namedGroup reading rest
  | '?' :: rest => do
    match ← readFlags reading.flags [] rest with
    | (flags, seen, ')' :: rest) =>
      guard (!seen.isEmpty)
      return .change { reading with rest, flags }
    | (flags, _, _ :: rest) => return .plain { reading with rest, flags }
    | (_, _, []) => none
  | rest => some (.capture { reading with rest })

/-! ### Sequences and alternatives -/

/-- The items in order as one; two or more make it deeper by one.  The last comes first. -/
def sequence (items : List Item) : Item :=
  match items with
  | [] => ⟨.empty, 0, true⟩
  | [item] => item
  | last :: items =>
    let whole := items.foldl (fun (whole : Item) item =>
      ⟨.seq item.pattern whole.pattern, max item.depth whole.depth, true⟩) last
    ⟨whole.pattern, whole.depth + 1, true⟩

/-- The alternatives as one item; two or more make it deeper by one.  The last comes first. -/
def alternatives (branches : List Item) : Item :=
  match branches with
  | [] => ⟨.empty, 0, true⟩
  | [branch] => branch
  | last :: branches =>
    let whole := branches.foldl (fun (whole : Item) branch =>
      ⟨.alt branch.pattern whole.pattern, max branch.depth whole.depth, true⟩) last
    ⟨whole.pattern, whole.depth + 1, true⟩

/-- The items of a group up to its end, which is left.  `inner` reads a group within, and the number
bounds the steps.  `items` and `branches` hold what was read, the last first. -/
def items (inner : Reading → Option (Item × Reading)) :
    Nat → List Item → List Item → Reading → Option (Item × Reading)
  | 0, _, _, _ => none
  | bound + 1, done, branches, reading =>
    let flags := reading.flags
    let more (item : Pattern) (depth : Nat) (rest : Text) :=
      items inner bound (⟨item, depth, true⟩ :: done) branches { reading with rest }
    let again (least : Nat) (most : Option Nat) (rest : Text) := do
      let (greedy, rest) := greed flags rest
      let done ← repeatLast done least most greedy
      items inner bound done branches { reading with rest }
    match flags.skip reading.rest with
    | [] => some (alternatives (sequence done :: branches), { reading with rest := [] })
    | ')' :: rest =>
      some (alternatives (sequence done :: branches), { reading with rest := ')' :: rest })
    | '|' :: rest => items inner bound [] (sequence done :: branches) { reading with rest }
    | '(' :: rest => do
      let group (captures : Bool) (inside : Reading) := do
        let (body, after) ← inner inside
        let ')' :: rest := after.rest | none
        items inner bound (⟨.group captures body.pattern, body.depth + 1, true⟩ :: done) branches
          { after with rest, flags }
      match ← opening { reading with rest } with
      | .change reading => items inner bound (⟨.empty, 0, false⟩ :: done) branches reading
      | .plain inside => group false inside
      | .capture inside => group true inside
    | '[' :: rest => do
      let (bracket, rest) ← Bracket.read flags (rest.length + 1) rest
      more (.one bracket.value) bracket.depth rest
    | '?' :: rest => again 0 (some 1) rest
    | '*' :: rest => again 0 none rest
    | '+' :: rest => again 1 none rest
    | '{' :: rest => do
      let ((least, most), rest) ← counts flags rest
      again least most (flags.skip rest)
    | '.' :: rest => do more (← dot? flags) 0 rest
    | '^' :: rest => more (lineStart flags) 0 rest
    | '$' :: rest => more (lineEnd flags) 0 rest
    | '\\' :: rest => do
      match ← Escape.read flags rest with
      | (.literal c, rest) => more (literal flags c) 0 rest
      | (.set members, rest) => more (.one members) 0 rest
      | (.look condition, rest) => more (.look condition) 0 rest
    | c :: rest => more (literal flags c) 0 rest

/-- A group's inside up to its end.  The number bounds the depth. -/
def body : Nat → Reading → Option (Item × Reading)
  | 0, _ => none
  | bound + 1, reading => items (body bound) (reading.rest.length + 1) [] [] reading

end Reader

/-- The pattern that a text spells, if it spells one that is neither too deep nor too large. -/
def Pattern.read? (flags : Flags) (text : Text) : Option Pattern := do
  let (item, reading) ← Reader.body (text.length + 1) { rest := text, flags }
  guard (reading.rest.isEmpty && item.depth ≤ Reader.depthLimit && item.pattern.fits)
  return item.pattern

end SyntaxGraft.Regex
