/-!
# Binary floating point in exact arithmetic

A finite double is a significand times a power of two.  `magnitude` takes a double apart into those
two numbers, and `ofRatio` rounds a positive quotient to the nearest double, a tie to the even
significand, by one exact division.
-/

namespace SyntaxGraft.Number

/-- The absolute value of a double. -/
inductive Magnitude where
  | nan
  | infinite
  /-- `significand * 2 ^ exponent`. -/
  | finite (significand : Nat) (exponent : Int)
  deriving DecidableEq, Repr

namespace Binary64

/-- The exponent of the least positive double, and of every double below the normal range. -/
def leastExponent : Int := -1074

/-- The sign bit. -/
def isNegative (x : Float) : Bool :=
  x.toBits >>> 63 == 1

/-- The absolute value, as an integer times a power of two. -/
def magnitude (x : Float) : Magnitude :=
  let bits := x.toBits.toNat % Nat.pow 2 63
  let exponentField : Nat := bits / Nat.pow 2 52
  let fraction : Nat := bits % Nat.pow 2 52
  if exponentField = 2047 then
    if fraction = 0 then .infinite else .nan
  else if exponentField = 0 then
    .finite fraction leastExponent
  else
    .finite (Nat.pow 2 52 + fraction) ((exponentField : Int) - 1075)

/-- The positive integer nearest to `num / den`, a tie going to the even one. -/
def divNearest (num den : Nat) : Nat :=
  let quotient := num / den
  let remainder := num % den
  if 2 * remainder > den || (2 * remainder == den && quotient % 2 == 1) then quotient + 1
  else quotient

/-- The largest `k` with `2 ^ k * den ≤ num`. -/
def log2Ratio (num den : Nat) : Int :=
  let estimate : Int := num.log2 - den.log2
  let reached := if 0 ≤ estimate then den * Nat.pow 2 estimate.toNat ≤ num
    else den ≤ num * Nat.pow 2 (-estimate).toNat
  if reached then estimate else estimate - 1

/-- The bits of the double nearest to `num / den`, for positive numbers. -/
def bitsOfRatio (num den : Nat) : Nat :=
  let exponent := max (log2Ratio num den - 52) leastExponent
  let significand :=
    if 0 ≤ exponent then divNearest num (den * Nat.pow 2 exponent.toNat)
    else divNearest (num * Nat.pow 2 (-exponent).toNat) den
  -- A significand of 53 bits has its leading bit counted in the exponent field, and rounding up to
  -- 54 bits carries into that field of its own accord.
  let bits := (exponent - leastExponent).toNat * Nat.pow 2 52 + significand
  min bits (2047 * Nat.pow 2 52)

/-- The double nearest to `num / den`, with a sign. -/
def ofRatio (negative : Bool) (num den : Nat) : Float :=
  let bits := if num = 0 then 0 else bitsOfRatio num den
  Float.ofBits (UInt64.ofNat (if negative then Nat.pow 2 63 + bits else bits))

/-- The double nearest to a natural number. -/
def ofNat (n : Nat) : Float :=
  ofRatio false n 1

/-- An infinity. -/
def infinity (negative : Bool) : Float :=
  Float.ofBits (UInt64.ofNat (if negative then 4095 * Nat.pow 2 52 else 2047 * Nat.pow 2 52))

/-- A value that is no number. -/
def notANumber : Float :=
  Float.ofBits (UInt64.ofNat (4095 * Nat.pow 2 51))

end Binary64

end SyntaxGraft.Number
