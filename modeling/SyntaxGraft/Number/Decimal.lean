import SyntaxGraft.Number.Binary64
import SyntaxGraft.Number.Digits
/-!
# Decimal notation for doubles

Reading: an optional sign, then digits with an optional point (at least one digit in all) and an
optional exponent; `inf`, `infinity` and `nan` in any case are read as well.  The value is the
double nearest to the exact decimal.

Writing: the fewest digits that read back, never with an exponent.  An integer below `10 ^ 15` in
magnitude is written without a sign on zero.
-/

namespace SyntaxGraft.Number

/-! ### Reading -/

/-- An unsigned decimal: the digits of `significand * 10 ^ exponent`. -/
structure Decimal where
  significand : Nat
  exponent : Int
  deriving DecidableEq, Repr

/-- The decimal digits at the front, and the rest. -/
def takeDigits (text : List Char) : List Char × List Char :=
  text.span Char.isDigit

/-- The exponent part at the end of a number: nothing, or a mark, a sign and digits. -/
def exponentPart? : List Char → Option Int
  | [] => some 0
  | mark :: rest =>
    if mark = 'e' || mark = 'E' then
      match rest with
      | '-' :: digits => (digitsValue? 10 digits).map fun n => -(n : Int)
      | '+' :: digits => (digitsValue? 10 digits).map Int.ofNat
      | digits => (digitsValue? 10 digits).map Int.ofNat
    else none

/-- An unsigned decimal number. -/
def decimal? (text : List Char) : Option Decimal := do
  let (whole, rest) := takeDigits text
  let (fraction, rest) := match rest with
    | '.' :: rest => takeDigits rest
    | rest => ([], rest)
  let significand ← digitsValue? 10 (whole ++ fraction)
  let exponent ← exponentPart? rest
  return ⟨significand, exponent - fraction.length⟩

/-- Every decimal from this power of ten on is beyond the largest double. -/
def overflowPower : Int := 310

/-- Every decimal below this power of ten is nearer to zero than to the least double. -/
def underflowPower : Int := -330

/-- The double nearest to a decimal. -/
def Decimal.toFloat (negative : Bool) (d : Decimal) : Float :=
  let power := d.exponent + (decimal d.significand).length
  if d.significand = 0 || power < underflowPower then Binary64.ofRatio negative 0 1
  else if power > overflowPower then Binary64.infinity negative
  else if 0 ≤ d.exponent then
    Binary64.ofRatio negative (d.significand * Nat.pow 10 d.exponent.toNat) 1
  else
    Binary64.ofRatio negative d.significand (Nat.pow 10 (-d.exponent).toNat)

/-- The double nearest to a decimal is no infinity. -/
def Decimal.isFinite (d : Decimal) : Bool :=
  Binary64.magnitude (d.toFloat false) ≠ .infinite

/-- A number without its sign, in decimal notation or as a name. -/
def unsignedFloat? (negative : Bool) (text : List Char) : Option Float :=
  let name := text.map Char.toLower
  if name = "inf".toList || name = "infinity".toList then some (Binary64.infinity negative)
  else if name = "nan".toList then some Binary64.notANumber
  else (decimal? text).map (Decimal.toFloat negative)

/-- The double a text denotes. -/
def float? : List Char → Option Float
  | '-' :: rest => unsignedFloat? true rest
  | '+' :: rest => unsignedFloat? false rest
  | text => unsignedFloat? false text

/-! ### Writing -/

/-- The largest `k` with `10 ^ k ≤ num / den`. -/
def log10Ratio (num den : Nat) : Int :=
  if den ≤ num then
    (decimal (num / den)).length - 1
  else
    let length := (decimal (den / num)).length
    if num * Nat.pow 10 (length - 1) = den then 1 - length else -length

/-- The candidates for `num / den` on the grid of multiples of `10 ^ power`, the nearer one first;
on a tie the upper one is. -/
def gridNeighbours (num den : Nat) (power : Int) : List Nat :=
  let (num, den) := if 0 ≤ power then (num, den * Nat.pow 10 power.toNat)
    else (num * Nat.pow 10 (-power).toNat, den)
  let lower := num / den
  if 2 * (num % den) < den then [lower, lower + 1] else [lower + 1, lower]

/-- The decimal reads back as `significand * 2 ^ exponent`: it lies within half a unit of it to each
side, a quarter below a power of two, the ends belonging to an even significand. -/
def inInterval (significand : Nat) (exponent : Int) (d : Decimal) : Bool :=
  -- Everything is scaled to quarters of the unit `2 ^ exponent`.
  let lowerGap := if significand = Nat.pow 2 52 && exponent ≠ Binary64.leastExponent then 1 else 2
  let low := 4 * significand - lowerGap
  let high := 4 * significand + 2
  let unitUp := if 0 ≤ exponent then Nat.pow 2 exponent.toNat else 1
  let unitDown := if 0 ≤ exponent then 1 else Nat.pow 2 (-exponent).toNat
  let tenUp := if 0 ≤ d.exponent then Nat.pow 10 d.exponent.toNat else 1
  let tenDown := if 0 ≤ d.exponent then 1 else Nat.pow 10 (-d.exponent).toNat
  let value := 4 * d.significand * tenUp * unitDown
  let lowEnd := low * unitUp * tenDown
  let highEnd := high * unitUp * tenDown
  if significand % 2 = 0 then lowEnd ≤ value && value ≤ highEnd
  else lowEnd < value && value < highEnd

/-- The decimal with the fewest digits, from `count` digits on, that reads back as
`significand * 2 ^ exponent`; of several, the nearest. -/
def shortestFrom (significand : Nat) (exponent : Int) : Nat → Nat → Decimal
  | 0, _ => ⟨significand, 0⟩
  | fuel + 1, count =>
    let num := if 0 ≤ exponent then significand * Nat.pow 2 exponent.toNat else significand
    let den := if 0 ≤ exponent then 1 else Nat.pow 2 (-exponent).toNat
    let power := log10Ratio num den - (count - 1)
    match (gridNeighbours num den power).find? fun d =>
        inInterval significand exponent ⟨d, power⟩ with
    | some d => ⟨d, power⟩
    | none => shortestFrom significand exponent fuel (count + 1)

/-- The shortest decimal of a positive finite double.  Seventeen digits always read back. -/
def shortest (significand : Nat) (exponent : Int) : Decimal :=
  shortestFrom significand exponent 17 1

/-- Decimal digits without an exponent. -/
def Decimal.positional (d : Decimal) : List Char :=
  let digits := decimal d.significand
  if 0 ≤ d.exponent then
    digits ++ List.replicate d.exponent.toNat '0'
  else
    let places := (-d.exponent).toNat
    let padded := List.replicate (places + 1 - digits.length) '0' ++ digits
    let whole := padded.take (padded.length - places)
    -- Zeros at the end of the fraction say nothing.
    let fraction := ((padded.drop (padded.length - places)).reverse.dropWhile (· = '0')).reverse
    if fraction.isEmpty then whole else whole ++ '.' :: fraction

/-- Integers from this magnitude on are written by their shortest digits. -/
def exactIntegerLimit : Nat := Nat.pow 10 15

/-- The integer that `significand * 2 ^ exponent` is. -/
def integer? (significand : Nat) (exponent : Int) : Option Nat :=
  if 0 ≤ exponent then some (significand * Nat.pow 2 exponent.toNat)
  else
    let unit := Nat.pow 2 (-exponent).toNat
    if significand % unit = 0 then some (significand / unit) else none

/-- A double in decimal notation. -/
def formatFloat (x : Float) : String :=
  let sign := if Binary64.isNegative x then "-" else ""
  match Binary64.magnitude x with
  | .nan => "NaN"
  | .infinite => sign ++ "inf"
  | .finite significand exponent =>
    match (integer? significand exponent).filter (· < exactIntegerLimit) with
    | some 0 => "0"
    | some n => sign ++ String.ofList (decimal n)
    | none => sign ++ String.ofList (shortest significand exponent).positional

end SyntaxGraft.Number
