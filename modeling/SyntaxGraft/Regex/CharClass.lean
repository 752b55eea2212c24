import SyntaxGraft.Unicode.CaseFold
import SyntaxGraft.Unicode.Derived
/-!
# Classes of characters

The sets of characters that a pattern names by a letter, such as digits, or by a word in a bracket,
such as `[:alpha:]`.
-/

namespace SyntaxGraft.Regex

export Unicode (CharSet)

namespace CharClass

open Unicode

/-- The ASCII characters. -/
def ascii : CharSet := .range 0 0x7F

/-- ASCII digits. -/
def asciiDigit : CharSet := .range 0x30 0x39

/-- Blank ASCII characters. -/
def asciiSpace : CharSet := .ofLines ["9-d 20"]

/-- ASCII letters, digits and the underscore. -/
def asciiWord : CharSet := .ofLines ["30-39 41-5a 5f 61-7a"]

/-- Digits, of Unicode or of ASCII. -/
def digit (unicode : Bool) : CharSet :=
  if unicode then Category.decimalNumber else asciiDigit

/-- Blank characters, of Unicode or of ASCII. -/
def space (unicode : Bool) : CharSet :=
  if unicode then whiteSpace else asciiSpace

/-- The characters of words, of Unicode or of ASCII. -/
def word (unicode : Bool) : CharSet :=
  if unicode then wordCharacter else asciiWord

/-- The classes that a bracket names in ASCII. -/
def posix? (name : String) : Option CharSet :=
  match name with
  | "alnum" => some (.ofLines ["30-39 41-5a 61-7a"])
  | "alpha" => some (.ofLines ["41-5a 61-7a"])
  | "ascii" => some ascii
  | "blank" => some (.ofLines ["9 20"])
  | "cntrl" => some (.ofLines ["0-1f 7f"])
  | "digit" => some asciiDigit
  | "graph" => some (.range 0x21 0x7E)
  | "lower" => some (.range 0x61 0x7A)
  | "print" => some (.range 0x20 0x7E)
  | "punct" => some (.ofLines ["21-2f 3a-40 5b-60 7b-7e"])
  | "space" => some asciiSpace
  | "upper" => some (.range 0x41 0x5A)
  | "word" => some asciiWord
  | "xdigit" => some (.ofLines ["30-39 41-46 61-66"])
  | _ => none

end CharClass

end SyntaxGraft.Regex
