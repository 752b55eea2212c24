import SyntaxGraft.Selector.Error
import SyntaxGraft.Text.Blank
import SyntaxGraft.Unicode.Letter
/-!
# Reading selectors

Every reader takes the text that is left and gives what it read with what is left after it, which is
always an end piece of what it was given.  A fault keeps the end piece at which it arose, so its
offset is the difference of two sizes (`Fault.locate`).

Selector lists nest in pseudo-classes.  The readers of one level take the reader of the level below
as a parameter, and `listWithin` ties them together up to a depth; the depth of a text is below its
length.
-/

namespace SyntaxGraft.SelectorReader

/-! ### Faults -/

/-- Why reading stopped, with the text from the place where it did. -/
inductive Fault where
  | unexpected (found : Char) (after : Text)
  | expected (what : Expectation) (rest : Text)
  | unknownPseudo (name : Text)
  | regexOperator (op : CompareOp)
  | invalidRegex (body flags : Text) (refusal : Regex.Refusal)

/-- The fault as an error of the whole selector. -/
def Fault.locate (selector : Text) : Fault → SelectorError
  | .unexpected found after =>
    .unexpected selector (Text.size selector - Text.size (found :: after)) found
  | .expected what rest => .expected selector (Text.size selector - Text.size rest) what
  | .unknownPseudo name => .unknownPseudo name
  | .regexOperator op => .regexOperator op
  | .invalidRegex body flags refusal => .invalidRegex body flags refusal

/-- A reader of selector lists. -/
abbrev ListReader := Text → Except Fault (SelectorList × Text)

/-! ### Names and values -/

/-- A character of names. -/
def isNameChar (c : Char) : Bool :=
  Unicode.isAlphanumeric c || c == '_' || c == '-' || c == '$'

/-- The name that opens a text; it may be empty. -/
def name (t : Text) : Text × Text :=
  (t.takeWhile isNameChar, t.dropWhile isNameChar)

/-- A name that may not be empty. -/
def someName (what : Expectation) (t : Text) : Except Fault (Text × Text) :=
  match name t with
  | ([], _) => .error (.expected what t)
  | (word, rest) => .ok (word, rest)

/-- A given character. -/
def char (c : Char) (what : Expectation) : Text → Except Fault Text
  | [] => .error (.expected what [])
  | d :: rest => if d = c then .ok rest else .error (.expected what (d :: rest))

/-- The names of a field path, divided by dots; `word` holds the characters of the present name, the
last first. -/
def fieldPath (word : Text) : Text → Except Fault (List String × Text)
  | [] => if word.isEmpty then .error (.expected .attributeName []) else
    .ok ([String.ofList word.reverse], [])
  | c :: rest =>
    if isNameChar c then fieldPath (c :: word) rest
    else if word.isEmpty then .error (.expected .attributeName (c :: rest))
    else if c = '.' then do
      let (names, rest) ← fieldPath [] rest
      return (String.ofList word.reverse :: names, rest)
    else .ok ([String.ofList word.reverse], c :: rest)

/-- The text up to a closing quote.  A backslash takes the next character; `\n` and `\t` are a line
end and a tab. -/
def quotedValue (quote : Char) : Text → Except Fault (Text × Text)
  | [] => .error (.expected .closingQuote [])
  | '\\' :: [] => .error (.expected .closingQuote [])
  | '\\' :: c :: rest => do
    let (value, rest) ← quotedValue quote rest
    let meant := if c = 'n' then '\n' else if c = 't' then '\t' else c
    return (meant :: value, rest)
  | c :: rest =>
    if c = quote then .ok ([], rest)
    else do
      let (value, rest) ← quotedValue quote rest
      return (c :: value, rest)

/-- A value without quotes: all up to a closing bracket, without the blanks at its end. -/
def bareValue (t : Text) : Except Fault (Text × Text) :=
  let rest := t.dropWhile (· ≠ ']')
  match Text.trimEnd (t.takeWhile (· ≠ ']')) with
  | [] => .error (.expected .attributeValue rest)
  | value => .ok (value, rest)

/-- A comparison operator, the longest that fits. -/
def operator : Text → Except Fault (CompareOp × Text)
  | '!' :: '=' :: rest => .ok (.ne, rest)
  | '<' :: '=' :: rest => .ok (.le, rest)
  | '>' :: '=' :: rest => .ok (.ge, rest)
  | '=' :: rest => .ok (.eq, rest)
  | '<' :: rest => .ok (.lt, rest)
  | '>' :: rest => .ok (.gt, rest)
  | rest => .error (.expected .operator rest)

/-! ### Attributes -/

/-- A regex may be equal or unequal only. -/
def regexNegated : CompareOp → Except Fault Bool
  | .eq => .ok false
  | .ne => .ok true
  | op => .error (.regexOperator op)

/-- A regex after its opening slash: the body, and the ASCII letters after it as flags. -/
def regexTest (op : CompareOp) (t : Text) : Except Fault (AttributeTest × Text) := do
  let negated ← regexNegated op
  match Regex.splitBody? t with
  | none => .error (.expected .closingSlash t)
  | some (body, rest) =>
    let flags := rest.takeWhile Char.isAlpha
    match Regex.compile body flags with
    | .error refusal => .error (.invalidRegex body flags refusal)
    | .ok pattern => return (.regex pattern negated, rest.dropWhile Char.isAlpha)

/-- The value an attribute is compared with. -/
def valueTest (op : CompareOp) : Text → Except Fault (AttributeTest × Text)
  | '/' :: rest => regexTest op rest
  | '"' :: rest => do
    let (value, rest) ← quotedValue '"' rest
    return (.compare op (.quoted value), rest)
  | '\'' :: rest => do
    let (value, rest) ← quotedValue '\'' rest
    return (.compare op (.quoted value), rest)
  | rest => do
    let (value, rest) ← bareValue rest
    return (.compare op (.bare value), rest)

/-- An attribute after its opening bracket. -/
def bracketed (t : Text) : Except Fault (Attribute × Text) := do
  let (path, rest) ← fieldPath [] (Text.skipBlank t)
  match Text.skipBlank rest with
  | ']' :: rest => return (⟨path, .present⟩, rest)
  | rest =>
    let (op, rest) ← operator rest
    let (test, rest) ← valueTest op (Text.skipBlank rest)
    let rest ← char ']' .closingBracket (Text.skipBlank rest)
    return (⟨path, test⟩, rest)

/-! ### Pseudo-classes -/

/-- A positive number in parentheses. -/
def parenIndex (t : Text) : Except Fault (Nat × Text) := do
  let rest := Text.skipBlank (← char '(' .openingParen t)
  match (Number.word? 10 (rest.takeWhile Char.isDigit)).filter (1 ≤ ·) with
  | none => .error (.expected .positiveIndex rest)
  | some position =>
    let rest ← char ')' .closingParen (Text.skipBlank (rest.dropWhile Char.isDigit))
    return (position, rest)

/-- A selector list in parentheses. -/
def parenList (inner : ListReader) (t : Text) : Except Fault (SelectorList × Text) := do
  let rest ← char '(' .openingParen t
  let (list, rest) ← inner rest
  let rest ← char ')' .closingParen (Text.skipBlank rest)
  return (list, rest)

/-- A pseudo-class after its colon. -/
def pseudo (inner : ListReader) (t : Text) : Except Fault (Pseudo × Text) := do
  let (word, rest) ← someName .pseudoName t
  match String.ofList word with
  | "not" => return (← parenList inner rest).map .not id
  | "matches" | "is" => return (← parenList inner rest).map .is id
  | "has" => return (← parenList inner rest).map .has id
  | "first-child" => return (.firstChild, rest)
  | "last-child" => return (.lastChild, rest)
  | "nth-child" => return (← parenIndex rest).map .nthChild id
  | "nth-last-child" => return (← parenIndex rest).map .nthLastChild id
  | "statement" => return (.statement, rest)
  | "expression" => return (.expression, rest)
  | _ => .error (.unknownPseudo word)

/-! ### Compounds, chains and lists -/

/-- The kind that opens a compound: a star, a name, or a name after `Kind=`. -/
def kind (t : Text) : Except Fault (Option String × Text) :=
  match t with
  | '*' :: rest => .ok (none, rest)
  | _ =>
    match name t with
    | ([], rest) => .ok (none, rest)
    | (word, rest) =>
      match rest with
      | '=' :: after =>
        if word = "Kind".toList then do
          let (word, rest) ← someName .nodeKind after
          return (some (String.ofList word), rest)
        else .ok (some (String.ofList word), rest)
      | _ => .ok (some (String.ofList word), rest)

/-- The attributes and pseudo-classes of a compound, added to what it has.  Every step reads a
character, so the number of characters bounds the steps. -/
def parts (inner : ListReader) :
    Nat → List Attribute → List Pseudo → Text →
      Except Fault ((List Attribute × List Pseudo) × Text)
  | bound + 1, attributes, pseudos, '[' :: rest => do
    let (read, rest) ← bracketed rest
    parts inner bound (attributes ++ [read]) pseudos rest
  | bound + 1, attributes, pseudos, ':' :: rest => do
    let (read, rest) ← pseudo inner rest
    parts inner bound attributes (pseudos ++ [read]) rest
  | _, attributes, pseudos, rest => .ok ((attributes, pseudos), rest)

/-- A compound, of one part at least. -/
def compound (inner : ListReader) (t : Text) : Except Fault (Compound × Text) := do
  let (kind, rest) ← kind t
  let ((attributes, pseudos), after) ← parts inner rest.length [] [] rest
  if after.length = t.length then .error (.expected .selector t)
  else return (.mk kind attributes pseudos, after)

/-- The compounds that follow on `left` in a chain, which ends before a comma, a closing parenthesis
or the end of the text. -/
def chain (inner : ListReader) : Nat → Complex → Text → Except Fault (Complex × Text)
  | 0, left, t => .ok (left, t)
  | bound + 1, left, t =>
    let rest := Text.skipBlank t
    let join (combinator : Combinator) (rest : Text) := do
      let (subject, rest) ← compound inner rest
      chain inner bound (.combined left combinator subject) rest
    match rest with
    | [] => .ok (left, rest)
    | ',' :: _ => .ok (left, rest)
    | ')' :: _ => .ok (left, rest)
    | '>' :: after => join .child (Text.skipBlank after)
    | '~' :: after => join .sibling (Text.skipBlank after)
    | '+' :: after => join .adjacent (Text.skipBlank after)
    | found :: after =>
      if rest.length < t.length then join .descendant rest
      else .error (.unexpected found after)

/-- One alternative. -/
def complex (inner : ListReader) (t : Text) : Except Fault (Complex × Text) := do
  let (first, rest) ← compound inner (Text.skipBlank t)
  chain inner rest.length (.compound first) rest

/-- The alternatives after commas, added to those before. -/
def alternatives (inner : ListReader) :
    Nat → SelectorList → Text → Except Fault (SelectorList × Text)
  | 0, list, t => .ok (list, t)
  | bound + 1, list, t =>
    match Text.skipBlank t with
    | ',' :: rest => do
      let (next, rest) ← complex inner rest
      alternatives inner bound (list ++ [next]) rest
    | rest => .ok (list, rest)

/-- A selector list. -/
def list (inner : ListReader) (t : Text) : Except Fault (SelectorList × Text) := do
  let (first, rest) ← complex inner t
  alternatives inner rest.length [first] rest

/-- A selector list with at most so many levels. -/
def listWithin : Nat → Text → Except Fault (SelectorList × Text)
  | 0, t => .error (.expected .selector t)
  | bound + 1, t => list (listWithin bound) t

/-- The selector list that a whole text spells. -/
def readList (selector : Text) : Except SelectorError SelectorList :=
  match listWithin (selector.length + 1) selector with
  | .error fault => .error (fault.locate selector)
  | .ok (list, rest) =>
    match Text.skipBlank rest with
    | [] => .ok list
    | found :: after => .error ((Fault.unexpected found after).locate selector)

end SyntaxGraft.SelectorReader
