import SyntaxGraft.Text.Basic
/-!
# Texts as bytes

The bytes of a text, and the text of bytes.  Bytes that are no text are refused where the first byte
stands that belongs to no character; if they only end too early, nothing more is said.

`decode_encode`: the bytes of a text decode to that text.
-/

namespace SyntaxGraft.Utf8

/-- The bytes of a text. -/
def encode (text : Text) : ByteArray :=
  (String.ofList text).toByteArray

/-- The bytes up to `start` are a text, and the next are not. -/
inductive Fault where
  /-- A character that begins here is cut off. -/
  | incomplete (start : Nat)
  /-- So many bytes from here on could begin a character, but the next does not go on with it. -/
  | invalid (start length : Nat)

/-- The fault in words. -/
def Fault.message : Fault → String
  | .incomplete start => s!"incomplete utf-8 byte sequence from index {start}"
  | .invalid start length => s!"invalid utf-8 sequence of {length} bytes from index {start}"

/-! ### Finding the fault -/

/-- The byte lies between two others. -/
def within (first last byte : UInt8) : Bool :=
  first ≤ byte && byte ≤ last

/-- What the bytes after a first byte have to lie between; none if no character begins so. -/
def expectation (first : UInt8) : Option (List (UInt8 × UInt8)) :=
  let tail : UInt8 × UInt8 := (0x80, 0xBF)
  if first < 0x80 then some []
  else if within 0xC2 0xDF first then some [tail]
  else if first = 0xE0 then some [(0xA0, 0xBF), tail]
  else if first = 0xED then some [(0x80, 0x9F), tail]
  else if within 0xE1 0xEF first then some [tail, tail]
  else if first = 0xF0 then some [(0x90, 0xBF), tail, tail]
  else if within 0xF1 0xF3 first then some [tail, tail, tail]
  else if first = 0xF4 then some [(0x80, 0x8F), tail, tail]
  else none

/-- What is wrong with the bytes, read from the left.  `start` is the place of the character being
read, `read` the number of its bytes that were read, and `due` what the bytes to come have to lie
between. -/
def faultFrom (start read : Nat) (due : List (UInt8 × UInt8)) : List UInt8 → Option Fault
  | [] => if due.isEmpty then none else some (.incomplete start)
  | byte :: rest =>
    match due with
    | (first, last) :: due =>
      if within first last byte then faultFrom start (read + 1) due rest
      else some (.invalid start read)
    | [] =>
      match expectation byte with
      | some due => faultFrom (start + read) 1 due rest
      | none => some (.invalid (start + read) 1)

/-- What is wrong with the bytes. -/
def fault? (bytes : ByteArray) : Option Fault :=
  faultFrom 0 0 [] bytes.toList

/-! ### Decoding -/

/-- The text of bytes. -/
def decode (bytes : ByteArray) : Except Fault Text :=
  match bytes.utf8Decode? with
  | some chars => .ok chars.toList
  | none => .error ((fault? bytes).getD (.incomplete bytes.size))

theorem decode_encode (text : Text) : decode (encode text) = .ok text := by
  simp [decode, encode, String.toByteArray_ofList, List.utf8Decode?_utf8Encode]

end SyntaxGraft.Utf8
