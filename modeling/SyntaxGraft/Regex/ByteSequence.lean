import SyntaxGraft.Unicode.CharSet
/-!
# Ranges of characters as ranges of bytes

A range of characters is divided into parts such that the characters of each part have encodings of
one length, and their bytes at each place form a range, whatever bytes stand at the other places.
The parts come in order.
-/

namespace SyntaxGraft.Regex

open Unicode

/-- A range of values for one byte. -/
structure ByteRange where
  first : Nat
  last : Nat
deriving DecidableEq

/-- A range for every byte of an encoding. -/
abbrev ByteSequence := List ByteRange

/-- The bytes that encode a code point. -/
def utf8Bytes (code : Nat) : List Nat :=
  if code < 0x80 then [code]
  else if code < 0x800 then [0xC0 + code / 0x40, 0x80 + code % 0x40]
  else if code < 0x10000 then
    [0xE0 + code / 0x1000, 0x80 + code / 0x40 % 0x40, 0x80 + code % 0x40]
  else
    [0xF0 + code / 0x40000, 0x80 + code / 0x1000 % 0x40, 0x80 + code / 0x40 % 0x40,
      0x80 + code % 0x40]

namespace ByteSequence

/-- Where encodings become longer: the last code points of one, two and three bytes. -/
def lengthEnds : List Nat := [0x7F, 0x7FF, 0xFFFF]

/-- The numbers of code points whose encodings differ in the last byte, the last two, or the last
three. -/
def blockSizes : List Nat := [0x40, 0x1000, 0x40000]

/-- The end of the left part, if a range has to be cut at a block of this size: before the block in
which it begins inside ends, or before the block in which it ends inside begins. -/
def blockCut? (first last block : Nat) : Option Nat :=
  if first / block = last / block then none
  else if first % block ≠ 0 then some (first / block * block + block - 1)
  else if last % block ≠ block - 1 then some (last / block * block - 1)
  else none

/-- The end of the left part and the start of the right one, if a range has to be cut. -/
def cut? (first last : Nat) : Option (Nat × Nat) :=
  if first < 0xE000 && 0xD7FF < last then some (0xD7FF, 0xE000)
  else
    let lengthEnd := lengthEnds.find? fun bound => first ≤ bound && bound < last
    let blockEnd := if last < 0x80 then none else blockSizes.findSome? (blockCut? first last)
    (lengthEnd <|> blockEnd).map fun bound => (bound, bound + 1)

/-- The parts of a range of code points.  The number bounds the cuts one within another. -/
def ofRangeWith : Nat → Nat → Nat → List ByteSequence
  | 0, _, _ => []
  | bound + 1, first, last =>
    if last < first then []
    else
      match cut? first last with
      | some (leftLast, rightFirst) =>
        ofRangeWith bound first leftLast ++ ofRangeWith bound rightFirst last
      | none => [List.zipWith ByteRange.mk (utf8Bytes first) (utf8Bytes last)]

/-- The parts of a range of characters.  One cut is made at the surrogates, three where encodings
become longer, and two for every size of blocks. -/
def ofRange (range : CharRange) : List ByteSequence :=
  ofRangeWith 16 range.first range.last

/-- The parts of a set of characters. -/
def ofSet (set : CharSet) : List ByteSequence :=
  set.ranges.flatMap ofRange

end ByteSequence

end SyntaxGraft.Regex
