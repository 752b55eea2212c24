/-!
# The 64-bit hash of bytes

The XXH3 hash with seed zero.  Short inputs are mixed in one of four ways according to their length;
inputs above 240 bytes are taken in stripes of 64 bytes into eight accumulators, which are scrambled
after every block of sixteen stripes.  All arithmetic is that of 64-bit words.
-/

namespace SyntaxGraft.Xxh3

/-! ### Constants -/

/-- The bytes that inputs are mixed with. -/
def secret : List UInt8 := [
  0xb8, 0xfe, 0x6c, 0x39, 0x23, 0xa4, 0x4b, 0xbe, 0x7c, 0x01, 0x81, 0x2c,
  0xf7, 0x21, 0xad, 0x1c, 0xde, 0xd4, 0x6d, 0xe9, 0x83, 0x90, 0x97, 0xdb,
  0x72, 0x40, 0xa4, 0xa4, 0xb7, 0xb3, 0x67, 0x1f, 0xcb, 0x79, 0xe6, 0x4e,
  0xcc, 0xc0, 0xe5, 0x78, 0x82, 0x5a, 0xd0, 0x7d, 0xcc, 0xff, 0x72, 0x21,
  0xb8, 0x08, 0x46, 0x74, 0xf7, 0x43, 0x24, 0x8e, 0xe0, 0x35, 0x90, 0xe6,
  0x81, 0x3a, 0x26, 0x4c, 0x3c, 0x28, 0x52, 0xbb, 0x91, 0xc3, 0x00, 0xcb,
  0x88, 0xd0, 0x65, 0x8b, 0x1b, 0x53, 0x2e, 0xa3, 0x71, 0x64, 0x48, 0x97,
  0xa2, 0x0d, 0xf9, 0x4e, 0x38, 0x19, 0xef, 0x46, 0xa9, 0xde, 0xac, 0xd8,
  0xa8, 0xfa, 0x76, 0x3f, 0xe3, 0x9c, 0x34, 0x3f, 0xf9, 0xdc, 0xbb, 0xc7,
  0xc7, 0x0b, 0x4f, 0x1d, 0x8a, 0x51, 0xe0, 0x4b, 0xcd, 0xb4, 0x59, 0x31,
  0xc8, 0x9f, 0x7e, 0xc9, 0xd9, 0x78, 0x73, 0x64, 0xea, 0xc5, 0xac, 0x83,
  0x34, 0xd3, 0xeb, 0xc3, 0xc5, 0x81, 0xa0, 0xff, 0xfa, 0x13, 0x63, 0xeb,
  0x17, 0x0d, 0xdd, 0x51, 0xb7, 0xf0, 0xda, 0x49, 0xd3, 0x16, 0x55, 0x26,
  0x29, 0xd4, 0x68, 0x9e, 0x2b, 0x16, 0xbe, 0x58, 0x7d, 0x47, 0xa1, 0xfc,
  0x8f, 0xf8, 0xb8, 0xd1, 0x7a, 0xd0, 0x31, 0xce, 0x45, 0xcb, 0x3a, 0x8f,
  0x95, 0x16, 0x04, 0x28, 0xaf, 0xd7, 0xfb, 0xca, 0xbb, 0x4b, 0x40, 0x7e]

def prime32a : UInt64 := 0x9E3779B1
def prime32b : UInt64 := 0x85EBCA77
def prime32c : UInt64 := 0xC2B2AE3D
def prime64a : UInt64 := 0x9E3779B185EBCA87
def prime64b : UInt64 := 0xC2B2AE3D27D4EB4F
def prime64c : UInt64 := 0x165667B19E3779F9
def prime64d : UInt64 := 0x85EBCA77C2B2AE63
def prime64e : UInt64 := 0x27D4EB2F165667C5
def primeMixA : UInt64 := 0x165667919E3779F9
def primeMixB : UInt64 := 0x9FB21C651E98DF25

/-! ### Words -/

/-- The word of the first bytes, the lowest byte first. -/
def word (count : Nat) (bytes : List UInt8) : UInt64 :=
  (bytes.take count).foldr (fun byte value => value <<< 8 ||| byte.toUInt64) 0

/-- The word of eight bytes at an offset. -/
def wordAt (bytes : List UInt8) (offset : Nat) : UInt64 :=
  word 8 (bytes.drop offset)

/-- Two words of the secret, combined. -/
def secretPair (offset : Nat) : UInt64 :=
  wordAt secret offset ^^^ wordAt secret (offset + 8)

/-- The bits turned to the left. -/
def rotateLeft (x count : UInt64) : UInt64 :=
  x <<< count ||| x >>> (64 - count)

/-- The word with its bytes in the other order. -/
def swapBytes (x : UInt64) : UInt64 :=
  (List.range 8).foldl (fun swapped i =>
    swapped <<< 8 ||| (x >>> (8 * i).toUInt64 &&& 0xFF)) 0

/-- The two halves of a full product, combined. -/
def foldProduct (a b : UInt64) : UInt64 :=
  let product := a.toNat * b.toNat
  UInt64.ofNat product ^^^ UInt64.ofNat (product >>> 64)

/-- The last step of most inputs. -/
def avalanche (h : UInt64) : UInt64 :=
  let h := (h ^^^ h >>> 37) * primeMixA
  h ^^^ h >>> 32

/-- The last step of the shortest inputs. -/
def avalancheShort (h : UInt64) : UInt64 :=
  let h := (h ^^^ h >>> 33) * prime64b
  let h := (h ^^^ h >>> 29) * prime64c
  h ^^^ h >>> 32

/-! ### Short inputs -/

/-- One to three bytes. -/
def hash3 (bytes : List UInt8) : UInt64 :=
  let length := bytes.length
  let byteAt (i : Nat) : UInt64 := word 1 (bytes.drop i)
  let combined := byteAt 0 <<< 16 ||| byteAt (length / 2) <<< 24 ||| byteAt (length - 1)
    ||| length.toUInt64 <<< 8
  avalancheShort (combined ^^^ (word 4 secret ^^^ word 4 (secret.drop 4)))

/-- Four to eight bytes. -/
def hash8 (bytes : List UInt8) : UInt64 :=
  let length := bytes.length
  let first := word 4 bytes
  let last := word 4 (bytes.drop (length - 4))
  let h := (last + first <<< 32) ^^^ secretPair 8
  let h := (h ^^^ rotateLeft h 49 ^^^ rotateLeft h 24) * primeMixB
  let h := (h ^^^ (h >>> 35 + length.toUInt64)) * primeMixB
  h ^^^ h >>> 28

/-- Nine to sixteen bytes. -/
def hash16 (bytes : List UInt8) : UInt64 :=
  let length := bytes.length
  let low := word 8 bytes ^^^ secretPair 24
  let high := wordAt bytes (length - 8) ^^^ secretPair 40
  avalanche (length.toUInt64 + swapBytes low + high + foldProduct low high)

/-- Sixteen bytes mixed with sixteen bytes of the secret. -/
def mix16 (bytes : List UInt8) (offset secretOffset : Nat) : UInt64 :=
  foldProduct (wordAt bytes offset ^^^ wordAt secret secretOffset)
    (wordAt bytes (offset + 8) ^^^ wordAt secret (secretOffset + 8))

/-- Seventeen to 128 bytes: pairs of pieces from both ends, as many as there are 32 bytes. -/
def hash128 (bytes : List UInt8) : UInt64 :=
  let length := bytes.length
  let pieces := (length - 1) / 32 + 1
  avalanche <| (List.range pieces).foldl (fun h i =>
    h + mix16 bytes (16 * i) (32 * i) + mix16 bytes (length - 16 * (i + 1)) (32 * i + 16))
    (length.toUInt64 * prime64a)

/-- 129 to 240 bytes: eight pieces, then those that follow, then the last. -/
def hash240 (bytes : List UInt8) : UInt64 :=
  let length := bytes.length
  let start := avalanche <| (List.range 8).foldl (fun h i =>
    h + mix16 bytes (16 * i) (16 * i)) (length.toUInt64 * prime64a)
  let rest := (List.range (length / 16 - 8)).foldl (fun h i =>
    h + mix16 bytes (16 * (i + 8)) (16 * i + 3)) start
  avalanche (rest + mix16 bytes (length - 16) 119)

/-! ### Long inputs -/

/-- The accumulators at the start. -/
def accumulators : List UInt64 :=
  [prime32c, prime64a, prime64b, prime64c, prime64d, prime32b, prime64e, prime32a]

/-- The eight words of a stripe. -/
def words (bytes : List UInt8) : List UInt64 :=
  (List.range 8).map fun i => wordAt bytes (8 * i)

/-- The list with neighbours swapped. -/
def swapPairs : List UInt64 → List UInt64
  | a :: b :: rest => b :: a :: swapPairs rest
  | rest => rest

/-- The product of the two halves of a word. -/
def multiplyHalves (key : UInt64) : UInt64 :=
  let low := key &&& 0xFFFFFFFF
  let high := key >>> 32
  low * high

/-- The accumulators after a stripe. -/
def accumulate (acc : List UInt64) (stripe secretPart : List UInt8) : List UInt64 :=
  let data := words stripe
  let keys := List.zipWith (· ^^^ ·) data (words secretPart)
  List.zipWith (· + ·) acc (List.zipWith (· + ·) (swapPairs data) (keys.map multiplyHalves))

/-- The accumulators after a block. -/
def scramble (acc : List UInt64) : List UInt64 :=
  List.zipWith (fun (a key : UInt64) => (a ^^^ a >>> 47 ^^^ key) * prime32a) acc
    (words (secret.drop 128))

/-- The accumulators after so many stripes, the first of them the stripe with the given number. -/
def stripes : Nat → Nat → List UInt8 → List UInt64 → List UInt64
  | 0, _, _, acc => acc
  | count + 1, number, bytes, acc =>
    let acc := accumulate acc bytes (secret.drop (8 * (number % 16)))
    let acc := if number % 16 = 15 then scramble acc else acc
    stripes count (number + 1) (bytes.drop 64) acc

/-- The accumulators combined in pairs with the secret from an offset on. -/
def merge (offset : Nat) (start : UInt64) : List UInt64 → UInt64
  | a :: b :: rest =>
    merge (offset + 16)
      (start + foldProduct (a ^^^ wordAt secret offset) (b ^^^ wordAt secret (offset + 8))) rest
  | _ => avalanche start

/-- More than 240 bytes. -/
def hashLong (bytes : List UInt8) : UInt64 :=
  let length := bytes.length
  let acc := stripes ((length - 1) / 64) 0 bytes accumulators
  let acc := accumulate acc (bytes.drop (length - 64)) (secret.drop 121)
  merge 11 (length.toUInt64 * prime64a) acc

/-! ### The hash -/

/-- The hash of bytes. -/
def hash (bytes : List UInt8) : UInt64 :=
  let length := bytes.length
  if length = 0 then avalancheShort (secretPair 56)
  else if length ≤ 3 then hash3 bytes
  else if length ≤ 8 then hash8 bytes
  else if length ≤ 16 then hash16 bytes
  else if length ≤ 128 then hash128 bytes
  else if length ≤ 240 then hash240 bytes
  else hashLong bytes

/-- A hash as sixteen hexadecimal digits. -/
def hex (h : UInt64) : String :=
  let digits := Nat.toDigits 16 h.toNat
  String.ofList (List.replicate (16 - digits.length) '0' ++ digits)

end SyntaxGraft.Xxh3
