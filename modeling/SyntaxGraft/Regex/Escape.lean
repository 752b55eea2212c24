import SyntaxGraft.Number.Digits
import SyntaxGraft.Regex.Pattern
import SyntaxGraft.Regex.Property
import SyntaxGraft.Text.Blank
/-!
# Flags and escapes

The readers of this part of the library take the text that is left and give what they read with what
is left after it, or nothing if the text is no pattern.
-/

namespace SyntaxGraft.Regex

open Unicode

/-- How the pattern from here on is understood. -/
structure Flags where
  ignoreCase : Bool := false
  multiLine : Bool := false
  /-- A dot matches line ends too. -/
  dotAll : Bool := false
  unicode : Bool := true
  /-- A carriage return ends lines too. -/
  crlf : Bool := false
  /-- Blanks and remarks in the pattern mean nothing. -/
  verbose : Bool := false
  /-- Repetitions match as little as they can unless they are marked. -/
  swapGreed : Bool := false

namespace Flags

/-- The set as these flags have it. -/
def fold (flags : Flags) (set : CharSet) : CharSet :=
  set.fold flags.ignoreCase flags.unicode

/-- The characters that are not in the set.  Outside Unicode there would be bytes among them that
are no characters, so there is no such set. -/
def negate? (flags : Flags) (set : CharSet) : Option CharSet :=
  if flags.unicode then some set.compl else none

/-- The text after blanks and remarks; a remark runs from `#` to the end of its line. -/
def skipRemarks : Bool → Text → Text
  | _, [] => []
  | true, c :: rest => skipRemarks (c != '\n') rest
  | false, c :: rest =>
    if isBlank c then skipRemarks false rest
    else if c == '#' then skipRemarks true rest
    else c :: rest

/-- The text from the next character that has a meaning. -/
def skip (flags : Flags) (t : Text) : Text :=
  if flags.verbose then skipRemarks false t else t

end Flags

/-- What an escape stands for. -/
inductive Escape where
  | literal (c : Char)
  | set (members : CharSet)
  | look (condition : Look)

namespace Escape

/-- The character of a code point. -/
def scalar? (code : Nat) : Option Char :=
  if code.isValidChar then some (Char.ofNat code) else none

/-! ### Characters by number -/

/-- A number of hexadecimal digits. -/
def hexDigits (flags : Flags) : Nat → Text → Option (List Char × Text)
  | 0, t => some ([], t)
  | _ + 1, [] => none
  | count + 1, c :: rest => do
    let _ ← hexDigit? c
    let (digits, rest) ← hexDigits flags count (flags.skip rest)
    return (c :: digits, rest)

/-- The characters up to a closing brace, which is passed over.  The first argument bounds the
number of characters. -/
def untilBrace (flags : Flags) : Nat → Text → Option (List Char × Text)
  | 0, _ | _, [] => none
  | _ + 1, '}' :: rest => some ([], rest)
  | bound + 1, c :: rest => do
    let (chars, rest) ← untilBrace flags bound (flags.skip rest)
    return (c :: chars, rest)

/-- The text between braces, the opening one already read. -/
def braced (flags : Flags) (t : Text) : Option (List Char × Text) :=
  untilBrace flags (t.length + 1) (flags.skip t)

/-- A character given by so many hexadecimal digits, or by any number of them in braces. -/
def hexChar (flags : Flags) (count : Nat) (t : Text) : Option (Char × Text) := do
  match flags.skip t with
  | '{' :: rest =>
    let (digits, rest) ← braced flags rest
    guard (!digits.isEmpty)
    let code ← Number.digitsValue? 16 digits
    return (← scalar? code, flags.skip rest)
  | rest =>
    let (digits, rest) ← hexDigits flags count rest
    return (← scalar? (hexValue digits), rest)

/-! ### Classes -/

/-- The two sides of the first place where a word stands in a text. -/
def splitOnce (word : Text) : Text → Option (Text × Text)
  | [] => none
  | c :: rest =>
    if word.isPrefixOf (c :: rest) then some ([], (c :: rest).drop word.length)
    else (splitOnce word rest).map fun (before, after) => (c :: before, after)

/-- The characters with the property that braces hold, and whether the others are meant, as `!=`
says. -/
def property? (name : Text) : Option (CharSet × Bool) :=
  match splitOnce ['!', '='] name with
  | some (kind, value) => (Property.valued? kind value).map fun members => (members, true)
  | none =>
    let members := match splitOnce [':'] name <|> splitOnce ['='] name with
      | some (kind, value) => Property.valued? kind value
      | none => Property.named? name
    members.map fun members => (members, false)

/-- The characters with the property of one letter, or of a name in braces, and whether the others
are meant. -/
def propertyName (flags : Flags) (t : Text) : Option ((CharSet × Bool) × Text) :=
  match flags.skip t with
  | [] => none
  | '\\' :: _ => none
  | '{' :: rest => do
    let (name, rest) ← braced flags rest
    return (← property? name, rest)
  | c :: rest => (Property.named? [c]).map fun members => ((members, false), flags.skip rest)

/-- A property after `\p` or `\P`.  Case is folded before the class is negated. -/
def propertyClass (flags : Flags) (negated : Bool) (t : Text) : Option (CharSet × Text) := do
  guard flags.unicode
  let ((members, isExcluded), rest) ← propertyName flags t
  let folded := flags.fold members
  return (if negated != isExcluded then folded.compl else folded, rest)

/-- The class of a letter, negated when the letter is a capital. -/
def letterClass? (flags : Flags) (letter : Char) : Option CharSet :=
  match letter with
  | 'd' => some (CharClass.digit flags.unicode)
  | 's' => some (CharClass.space flags.unicode)
  | 'w' => some (CharClass.word flags.unicode)
  | 'D' => flags.negate? (CharClass.digit true)
  | 'S' => flags.negate? (CharClass.space true)
  | 'W' => flags.negate? (CharClass.word true)
  | _ => none

/-! ### Word boundaries -/

/-- A character of the names of word boundaries. -/
def isBoundaryNameChar (c : Char) : Bool :=
  c.isAlpha || c == '-'

/-- The letters of a boundary's name.  The first argument bounds their number. -/
def boundaryName (flags : Flags) : Nat → Text → List Char × Text
  | 0, t => ([], t)
  | _, [] => ([], [])
  | bound + 1, c :: rest =>
    if isBoundaryNameChar c then
      let (chars, rest) := boundaryName flags bound (flags.skip rest)
      (c :: chars, rest)
    else ([], c :: rest)

/-- A word boundary: plain, or with a name in braces.  Braces that begin with anything but a name
are left, to be read as a repetition. -/
def boundary (flags : Flags) (t : Text) : Option (Look × Text) :=
  match t with
  | '{' :: rest =>
    match flags.skip rest with
    | [] => none
    | c :: more =>
      if isBoundaryNameChar c then
        let (name, rest) := boundaryName flags (more.length + 1) (c :: more)
        match String.ofList name, rest with
        | "start", '}' :: rest => some (.wordStart flags.unicode, rest)
        | "end", '}' :: rest => some (.wordEnd flags.unicode, rest)
        | "start-half", '}' :: rest => some (.wordStartHalf flags.unicode, rest)
        | "end-half", '}' :: rest => some (.wordEndHalf flags.unicode, rest)
        | _, _ => none
      else some (.wordBoundary flags.unicode, t)
  | _ => some (.wordBoundary flags.unicode, t)

/-! ### Escapes -/

/-- A character that stands for itself after a backslash: any in ASCII but letters, digits and
angle brackets. -/
def isPlainEscape (c : Char) : Bool :=
  c.toNat < 128 && !c.isAlphanum && c != '<' && c != '>'

/-- The escape after a backslash. -/
def read (flags : Flags) : Text → Option (Escape × Text)
  | [] => none
  | 'x' :: rest => do
    let (c, after) ← hexChar flags 2 rest
    -- Outside Unicode two digits give a byte, and a byte above ASCII is no character.
    guard (flags.unicode || c.toNat < 128 || (flags.skip rest).head? = some '{')
    return (.literal c, after)
  | 'u' :: rest => do
    let (c, rest) ← hexChar flags 4 rest
    return (.literal c, rest)
  | 'U' :: rest => do
    let (c, rest) ← hexChar flags 8 rest
    return (.literal c, rest)
  | 'p' :: rest => do
    let (members, rest) ← propertyClass flags false rest
    return (.set members, rest)
  | 'P' :: rest => do
    let (members, rest) ← propertyClass flags true rest
    return (.set members, rest)
  | 'b' :: rest => do
    let (condition, rest) ← boundary flags rest
    return (.look condition, rest)
  | 'a' :: rest => some (.literal '\x07', rest)
  | 'f' :: rest => some (.literal '\x0c', rest)
  | 't' :: rest => some (.literal '\t', rest)
  | 'n' :: rest => some (.literal '\n', rest)
  | 'r' :: rest => some (.literal '\r', rest)
  | 'v' :: rest => some (.literal '\x0b', rest)
  | 'A' :: rest => some (.look .textStart, rest)
  | 'z' :: rest => some (.look .textEnd, rest)
  | 'B' :: rest => some (.look (.notWordBoundary flags.unicode), rest)
  | '<' :: rest => some (.look (.wordStart flags.unicode), rest)
  | '>' :: rest => some (.look (.wordEnd flags.unicode), rest)
  | c :: rest =>
    if isPlainEscape c then some (.literal c, rest)
    else (letterClass? flags c).map fun members => (.set members, rest)

end Escape

end SyntaxGraft.Regex
