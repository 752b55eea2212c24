import SyntaxGraft.Proofs.Selector.Cursor
/-!
# Selectors walked over

Reading a selector as a walk: each walk does what the reader of the same name does
(`SyntaxGraft.SelectorReader`), character by character and with the cursor where it is at that time,
so an error has its offset when it arises.

What bounds a loop of the readers also ends it.  Here the bound is that of the whole walk
(`bounded`), and where it runs out there is no result at all (`exhausted`).  A round is noted
(`note`) when a loop is about to go round again, and when a list between parentheses has been read.
-/

namespace SyntaxGraft.SelectorWalk

open Walk

/-! ### Names and values -/

/-- A name that may not be empty; `what` is what is missed else. -/
def someName (what : Expectation) : Walk Text := do
  let word ← scan SelectorReader.isNameChar
  if word.isEmpty then missing what else return word

/-- Names with dots between them. -/
def fieldPathWithin : Nat → Walk (List String)
  | 0 => exhausted
  | bound + 1 => do
    let word ← someName .attributeName
    if ← eat '.' then return String.ofList word :: (← fieldPathWithin bound)
    else return [String.ofList word]

/-- The text up to a closing quote. -/
def quotedWithin (quote : Char) : Nat → Walk Text
  | 0 => exhausted
  | bound + 1 => do
    match ← next with
    | none => missing .closingQuote
    | some c =>
      if c = quote then return []
      else if c = '\\' then
        match ← next with
        | none => missing .closingQuote
        | some c =>
          let meant := if c = 'n' then '\n' else if c = 't' then '\t' else c
          return meant :: (← quotedWithin quote bound)
      else return c :: (← quotedWithin quote bound)

/-- A value without quotes, up to `]` and trimmed. -/
def bareValue : Walk Text := do
  let value := Text.trimEnd (← scan (· ≠ ']'))
  if value.isEmpty then missing .attributeValue else return value

/-- The first of some operators that stands at the cursor. -/
def firstOperator : List CompareOp → Walk CompareOp
  | [] => missing .operator
  | op :: rest => do
    if ← eatAll op.symbol.toList then return op else firstOperator rest

/-- A comparison operator (`CompareOp`); those of two characters are tried before those of one. -/
def operator : Walk CompareOp :=
  firstOperator [.ne, .le, .ge, .eq, .lt, .gt]

/-! ### Attributes -/

/-- A regex after its opening slash.  Its body is not walked over: the size of what is left behind
the closing slash tells where that is. -/
def regexTest (op : CompareOp) : Walk AttributeTest := do
  match SelectorReader.regexNegated op with
  | .error fault => throw (fault.locate (← whole))
  | .ok negated =>
    match Regex.splitBody? (← ahead) with
    | none => missing .closingSlash
    | some (body, rest) =>
      moveTo (Text.size (← whole) - Text.size rest)
      let flags ← scan Char.isAlpha
      match Regex.compile body flags with
      | .error refusal => throw (.invalidRegex body flags refusal)
      | .ok pattern => return .regex pattern negated

/-- A value in quotes, after the quote that opens it. -/
def quotedTest (op : CompareOp) (quote : Char) : Walk AttributeTest := do
  let value ← bounded (quotedWithin quote)
  return .compare op (.quoted value)

/-- The value an attribute is compared with. -/
def valueTest (op : CompareOp) : Walk AttributeTest := do
  match ← peek with
  | some '/' =>
    let _ ← next
    regexTest op
  | some '"' =>
    let _ ← next
    quotedTest op '"'
  | some '\'' =>
    let _ ← next
    quotedTest op '\''
  | _ => return .compare op (.bare (← bareValue))

/-- An attribute after its opening bracket. -/
def bracketed : Walk Attribute := do
  skipBlank
  let path ← bounded fieldPathWithin
  skipBlank
  if ← eat ']' then return ⟨path, .present⟩
  else
    let op ← operator
    skipBlank
    let test ← valueTest op
    skipBlank
    expect ']' .closingBracket
    return ⟨path, test⟩

/-! ### Pseudo-classes and kinds -/

/-- A positive number in parentheses.  If there is none, that is an error where the digits begin. -/
def parenIndex : Walk Nat := do
  expect '(' .openingParen
  skipBlank
  let start ← here
  let digits ← scan Char.isDigit
  match (Number.word? 10 digits).filter (1 ≤ ·) with
  | none => missingAt start .positiveIndex
  | some position =>
    skipBlank
    expect ')' .closingParen
    return position

/-- The kind that opens a compound. -/
def kind : Walk (Option String) := do
  if ← eat '*' then return none
  else
    let word ← scan SelectorReader.isNameChar
    if word.isEmpty then return none
    else if word = "Kind".toList then
      if ← eat '=' then return some (String.ofList (← someName .nodeKind))
      else return some (String.ofList word)
    else return some (String.ofList word)

/-! ### Combinators -/

/-- A combinator that is written out, and the blanks behind it. -/
def writtenCombinator (combinator : Combinator) : Walk (Option Combinator) := do
  let _ ← next
  skipBlank
  return some combinator

/-- What joins the next compound of a chain, or nothing at the end of the chain; `spaced` says that
there were blanks. -/
def combinatorAfter (spaced : Bool) : Walk (Option Combinator) := do
  match ← peek with
  | none | some ',' | some ')' => return none
  | some '>' => writtenCombinator .child
  | some '~' => writtenCombinator .sibling
  | some '+' => writtenCombinator .adjacent
  | some found => if spaced then return some .descendant else stray found

/-- What joins the next compound of a chain, blanks included. -/
def combinator : Walk (Option Combinator) := do
  let blanks ← scan isBlank
  combinatorAfter !blanks.isEmpty

/-! ### Compounds, chains and lists -/

section

/-! The walks of one level take the walk over nested lists as a parameter. -/

variable (inner : Walk SelectorList)

/-- A selector list in parentheses. -/
def parenList : Walk SelectorList := do
  expect '(' .openingParen
  let start ← here
  let list ← inner
  note .nested start
  skipBlank
  expect ')' .closingParen
  return list

/-- A pseudo-class after its colon. -/
def pseudo : Walk Pseudo := do
  let word ← someName .pseudoName
  match String.ofList word with
  | "not" => return .not (← parenList inner)
  | "matches" | "is" => return .is (← parenList inner)
  | "has" => return .has (← parenList inner)
  | "first-child" => return .firstChild
  | "last-child" => return .lastChild
  | "nth-child" => return .nthChild (← parenIndex)
  | "nth-last-child" => return .nthLastChild (← parenIndex)
  | "statement" => return .statement
  | "expression" => return .expression
  | _ => throw (.unknownPseudo word)

/-- The attributes and pseudo-classes of a compound, added to what it has. -/
def partsWithin : Nat → List Attribute → List Pseudo → Walk (List Attribute × List Pseudo)
  | 0, _, _ => exhausted
  | bound + 1, attributes, pseudos => do
    let start ← here
    match ← peek with
    | some '[' =>
      let _ ← next
      let read ← bracketed
      note .parts start
      partsWithin bound (attributes ++ [read]) pseudos
    | some ':' =>
      let _ ← next
      let read ← pseudo inner
      note .parts start
      partsWithin bound attributes (pseudos ++ [read])
    | _ => return (attributes, pseudos)

/-- A compound, which fails (`Expectation.selector`) where the cursor has not moved. -/
def compound : Walk Compound := do
  let start ← here
  let kind ← kind
  let (attributes, pseudos) ← bounded fun bound => partsWithin inner bound [] []
  if (← here) = start then missing .selector else return .mk kind attributes pseudos

/-- The compounds that follow on `left` in a chain. -/
def chainWithin : Nat → Complex → Walk Complex
  | 0, _ => exhausted
  | bound + 1, left => do
    let start ← here
    match ← combinator with
    | none => return left
    | some combinator =>
      let subject ← compound inner
      note .chain start
      chainWithin bound (.combined left combinator subject)

/-- One alternative, the `Complex` between two commas. -/
def complex : Walk Complex := do
  skipBlank
  let first ← compound inner
  bounded fun bound => chainWithin inner bound (.compound first)

/-- The alternatives after commas, added to those before. -/
def alternativesWithin : Nat → SelectorList → Walk SelectorList
  | 0, _ => exhausted
  | bound + 1, list => do
    let start ← here
    skipBlank
    if ← eat ',' then
      let next ← complex inner
      note .alternatives start
      alternativesWithin bound (list ++ [next])
    else return list

/-- A selector list. -/
def list : Walk SelectorList := do
  let first ← complex inner
  bounded fun bound => alternativesWithin inner bound [first]

end

/-- A selector list with at most `bound` levels. -/
def listWithin : Nat → Walk SelectorList
  | 0 => exhausted
  | bound + 1 => list (listWithin bound)

/-- The selector list that a whole text spells. -/
def selector : Walk SelectorList := do
  let list ← bounded listWithin
  skipBlank
  match ← peek with
  | none => return list
  | some found => stray found

end SyntaxGraft.SelectorWalk
