import SyntaxGraft.Toml.Basic
import SyntaxGraft.Toml.Plain
/-!
# Reading documents

A document is read line by line into statements, and the statements build the root table.  A text
that is no document gives nothing; what exactly is wrong with it is not told.
-/

namespace SyntaxGraft.Toml

/-! ### Blanks and remarks -/

/-- A character that stands for itself in strings and remarks. -/
def isPrintable (c : Char) : Bool :=
  c = '\t' || (0x20 ≤ c.toNat && c.toNat ≠ 0x7F)

/-- The text after spaces and tabs. -/
def skipSpaces (t : Text) : Text :=
  t.dropWhile fun c => c = ' ' || c = '\t'

/-- The text after the end of a line. -/
def lineEnd? : Text → Option Text
  | '\n' :: rest => some rest
  | '\r' :: '\n' :: rest => some rest
  | _ => none

/-- The text after spaces, line ends and remarks; the flag is on inside a remark. -/
def skipAll? : Bool → Text → Option Text
  | _, [] => some []
  | _, '\n' :: rest => skipAll? false rest
  | _, '\r' :: '\n' :: rest => skipAll? false rest
  | true, c :: rest => if isPrintable c then skipAll? true rest else none
  | false, c :: rest =>
    if c = ' ' || c = '\t' then skipAll? false rest
    else if c = '#' then skipAll? true rest
    else some (c :: rest)

/-- The text after the rest of a line that holds nothing but a remark; the flag is on inside it. -/
def restOfLine? : Bool → Text → Option Text
  | _, [] => some []
  | _, '\n' :: rest => some rest
  | _, '\r' :: '\n' :: rest => some rest
  | true, c :: rest => if isPrintable c then restOfLine? true rest else none
  | false, c :: rest =>
    if c = ' ' || c = '\t' then restOfLine? false rest
    else if c = '#' then restOfLine? true rest
    else none

/-! ### Strings -/

/-- A character given by so many hexadecimal digits. -/
def codePoint? (count : Nat) (t : Text) : Option (Char × Text) := do
  let digits := t.take count
  guard (digits.length = count)
  let code ← Number.digitsValue? 16 digits
  guard code.isValidChar
  return (Char.ofNat code, t.drop count)

/-- The character that an escape stands for. -/
def escape? : Text → Option (Char × Text)
  | 'b' :: rest => some ('\x08', rest)
  | 't' :: rest => some ('\t', rest)
  | 'n' :: rest => some ('\n', rest)
  | 'f' :: rest => some ('\x0c', rest)
  | 'r' :: rest => some ('\r', rest)
  | 'e' :: rest => some ('\x1b', rest)
  | '"' :: rest => some ('"', rest)
  | '\\' :: rest => some ('\\', rest)
  | 'x' :: rest => codePoint? 2 rest
  | 'u' :: rest => codePoint? 4 rest
  | 'U' :: rest => codePoint? 8 rest
  | _ => none

/-- The text after spaces, tabs and line ends. -/
def skipLines : Text → Text
  | '\n' :: rest => skipLines rest
  | '\r' :: '\n' :: rest => skipLines rest
  | c :: rest => if c = ' ' || c = '\t' then skipLines rest else c :: rest
  | [] => []

/-- The text after a line end that a backslash takes away, and all blanks after it. -/
def joinedLine? (t : Text) : Option Text := do
  return skipLines (← lineEnd? (skipSpaces t))

/-- The value with one character in front. -/
def prepend (c : Char) (read : Option (Text × Text)) : Option (Text × Text) :=
  read.map fun (value, rest) => (c :: value, rest)

/-- The rest of a string on one line in double quotes.  The number bounds the steps. -/
def basicString : Nat → Text → Option (Text × Text)
  | 0, _ => none
  | _ + 1, [] => none
  | _ + 1, '"' :: rest => some ([], rest)
  | bound + 1, '\\' :: rest => do
    let (c, rest) ← escape? rest
    prepend c (basicString bound rest)
  | bound + 1, c :: rest => if isPrintable c then prepend c (basicString bound rest) else none

/-- The rest of a string on one line in single quotes. -/
def literalString : Text → Option (Text × Text)
  | [] => none
  | '\'' :: rest => some ([], rest)
  | c :: rest => if isPrintable c then prepend c (literalString rest) else none

/-- What closes a string of many lines: three quotes, or with one or two more quotes that belong to
the string. -/
def closing? (quote : Char) (t : Text) : Option (Text × Text) :=
  let quotes := min 5 (t.takeWhile (· = quote)).length
  if 3 ≤ quotes then some (List.replicate (quotes - 3) quote, t.drop quotes) else none

/-- The rest of a string of many lines.  In double quotes escapes are read.  The number bounds the
steps. -/
def manyLines (quote : Char) : Nat → Text → Option (Text × Text)
  | 0, _ => none
  | bound + 1, t =>
    match closing? quote t with
    | some closed => some closed
    | none =>
      match t with
      | [] => none
      | '\r' :: '\n' :: rest => prepend '\r' (prepend '\n' (manyLines quote bound rest))
      | '\\' :: rest =>
        if quote = '\'' then prepend '\\' (manyLines quote bound rest)
        else match joinedLine? rest with
          | some rest => manyLines quote bound rest
          | none => do
            let (c, rest) ← escape? rest
            prepend c (manyLines quote bound rest)
      | c :: rest =>
        if isPrintable c || c = '\n' then prepend c (manyLines quote bound rest) else none

/-- The text without a line end in front. -/
def dropLineEnd (t : Text) : Text :=
  (lineEnd? t).getD t

/-- A string. -/
def string? : Text → Option (Text × Text)
  | '"' :: '"' :: '"' :: rest => manyLines '"' (rest.length + 1) (dropLineEnd rest)
  | '\'' :: '\'' :: '\'' :: rest => manyLines '\'' (rest.length + 1) (dropLineEnd rest)
  | '"' :: rest => basicString (rest.length + 1) rest
  | '\'' :: rest => literalString rest
  | _ => none

/-! ### Keys -/

/-- A character of keys without quotes. -/
def isKeyChar (c : Char) : Bool :=
  c.isAlphanum || c = '_' || c = '-'

/-- One step of a key. -/
def simpleKey? (t : Text) : Option (Text × Text) :=
  match t with
  | '"' :: rest => basicString (rest.length + 1) rest
  | '\'' :: rest => literalString rest
  | _ =>
    match t.takeWhile isKeyChar with
    | [] => none
    | key => some (key, t.dropWhile isKeyChar)

/-- The deepest nesting of arrays and tables in braces, and the most steps of a key. -/
def depthLimit : Nat := 80

/-- The steps of a key, divided by dots, with spaces around them.  There are no more of them than
the number. -/
def steps? : Nat → Text → Option (List Text × Text)
  | 0, _ => none
  | bound + 1, t => do
    let (step, rest) ← simpleKey? (skipSpaces t)
    match skipSpaces rest with
    | '.' :: rest =>
      let (steps, rest) ← steps? bound rest
      return (step :: steps, rest)
    | rest => return ([step], rest)

/-- A key. -/
def key? (t : Text) : Option (List Text × Text) :=
  steps? depthLimit t

/-- A key with a value after it.  `skip?` passes over what may stand around the sign between
them. -/
def pair? (skip? : Text → Option Text) (value? : Text → Option (Value × Text)) (t : Text) :
    Option ((List Text × Value) × Text) := do
  let (keys, rest) ← key? t
  let '=' :: rest ← skip? rest | none
  let (value, rest) ← value? (← skip? rest)
  return ((keys, value), rest)

/-! ### Values -/

/-- The elements of an array up to its closing bracket; a comma may follow the last. -/
def elements? (value? : Text → Option (Value × Text)) :
    Nat → List Value → Text → Option (List Value × Text)
  | 0, _, _ => none
  | bound + 1, before, t => do
    match ← skipAll? false t with
    | ']' :: rest => return (before, rest)
    | rest =>
      let (value, rest) ← value? rest
      match ← skipAll? false rest with
      | ',' :: rest => elements? value? bound (before ++ [value]) rest
      | ']' :: rest => return (before ++ [value], rest)
      | _ => none

/-- The entries of a table in braces up to the closing brace; a comma may follow the last. -/
def entries? (value? : Text → Option (Value × Text)) :
    Nat → Value → Text → Option (Value × Text)
  | 0, _, _ => none
  | bound + 1, table, t => do
    match ← skipAll? false t with
    | '}' :: rest => return (table, rest)
    | rest =>
      let ((keys, value), rest) ← pair? (skipAll? false) value? rest
      let table ← Value.assign keys value table
      match ← skipAll? false rest with
      | ',' :: rest => entries? value? bound table rest
      | '}' :: rest => return (table, rest)
      | _ => none

/-- A value that nests no deeper than a bound. -/
def value? : Nat → Text → Option (Value × Text)
  | depth, '[' :: rest =>
    match depth with
    | 0 => none
    | depth + 1 => do
      let (elements, rest) ← elements? (value? depth) (rest.length + 1) [] rest
      return (.array false elements, rest)
  | depth, '{' :: rest =>
    match depth with
    | 0 => none
    | depth + 1 => entries? (value? depth) (rest.length + 1) (.emptyTable .inline) rest
  | _, t =>
    if t.head? = some '"' || t.head? = some '\'' then do
      let (text, rest) ← string? t
      return (.string text, rest)
    else
      let (word, rest) := takePlain t
      if isPlain word then some (.plain word, rest) else none

/-! ### Documents -/

/-- One line of a document. -/
inductive Statement where
  | header (keys : List Text)
  | elementHeader (keys : List Text)
  | pair (keys : List Text) (value : Value)

/-- The statement that opens a text. -/
def statement? : Text → Option (Statement × Text)
  | '[' :: '[' :: rest => do
    let (keys, rest) ← key? rest
    let ']' :: ']' :: rest := rest | none
    return (.elementHeader keys, rest)
  | '[' :: rest => do
    let (keys, rest) ← key? rest
    let ']' :: rest := rest | none
    return (.header keys, rest)
  | t => do
    let ((keys, value), rest) ← pair? (some ∘ skipSpaces) (value? depthLimit) t
    return (.pair keys value, rest)

/-- The statements of a text.  The number bounds the steps. -/
def statements? : Nat → Text → Option (List Statement)
  | 0, _ => none
  | bound + 1, t => do
    match ← skipAll? false t with
    | [] => return []
    | rest =>
      let (statement, rest) ← statement? rest
      let statements ← statements? bound (← restOfLine? false rest)
      return statement :: statements

/-- The root after a statement, and the path of the table that pairs go to. -/
def perform? : Value × List Text → Statement → Option (Value × List Text)
  | (root, _), .header keys => do
    let key :: steps := keys.reverse | none
    return (← Value.change false (Value.openTable key) steps.reverse root, keys)
  | (root, _), .elementHeader keys => do
    let key :: steps := keys.reverse | none
    return (← Value.change false (Value.openElement key) steps.reverse root, keys)
  | (root, current), .pair keys value => do
    return (← Value.change false (Value.assign keys value) current root, current)

/-- The entries of the root table of a document.  A byte order mark in front is passed over. -/
def read? (document : Text) : Option (List Entry) := do
  let body := match document with
    | '\uFEFF' :: rest => rest
    | t => t
  let statements ← statements? (body.length + 1) body
  let (root, _) ← statements.foldlM perform? (Value.emptyTable .named, [])
  match root with
  | .table _ entries => return entries
  | _ => none

end SyntaxGraft.Toml
