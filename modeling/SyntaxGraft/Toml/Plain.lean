import SyntaxGraft.Number.Decimal
import SyntaxGraft.Text.Basic
/-!
# Plain values

Which words are values without quotes: truth values, integers of 64 bits, floating-point numbers,
dates and times.
-/

namespace SyntaxGraft.Toml

/-! ### Numbers -/

/-- Digits of a radix with single underscores between them. -/
def isDigits (radix : Nat) : Text → Bool
  | [] => false
  | [c] => (Number.digitValue? radix c).isSome
  | c :: '_' :: rest => (Number.digitValue? radix c).isSome && isDigits radix rest
  | c :: rest => (Number.digitValue? radix c).isSome && isDigits radix rest

/-- The text without underscores. -/
def withoutUnderscores (t : Text) : Text :=
  t.filter (· ≠ '_')

/-- The text without a sign in front. -/
def unsigned : Text → Text
  | '+' :: rest => rest
  | '-' :: rest => rest
  | t => t

/-- Decimal digits without a zero in front of others. -/
def isWhole (t : Text) : Bool :=
  isDigits 10 t && (t.length = 1 || t.head? ≠ some '0')

/-- The digits spell a number up to a limit. -/
def isAtMost (limit radix : Nat) (digits : Text) : Bool :=
  match Number.digitsValue? radix (withoutUnderscores digits) with
  | some value => value ≤ limit
  | none => false

/-- An integer of 64 bits. -/
def isInteger (t : Text) : Bool :=
  match t with
  | '0' :: 'x' :: rest => isDigits 16 rest && isAtMost (Nat.pow 2 63 - 1) 16 rest
  | '0' :: 'o' :: rest => isDigits 8 rest && isAtMost (Nat.pow 2 63 - 1) 8 rest
  | '0' :: 'b' :: rest => isDigits 2 rest && isAtMost (Nat.pow 2 63 - 1) 2 rest
  | '-' :: rest => isWhole rest && isAtMost (Nat.pow 2 63) 10 rest
  | _ => isWhole (unsigned t) && isAtMost (Nat.pow 2 63 - 1) 10 (unsigned t)

/-- A floating-point number in digits, with a fraction or an exponent or both. -/
def isDecimal (body : Text) : Bool :=
  let mantissa := body.takeWhile fun c => c ≠ 'e' && c ≠ 'E'
  let exponent := body.dropWhile fun c => c ≠ 'e' && c ≠ 'E'
  let whole := mantissa.takeWhile (· ≠ '.')
  let fraction := mantissa.dropWhile (· ≠ '.')
  isWhole whole && (!fraction.isEmpty || !exponent.isEmpty)
    && (fraction.isEmpty || isDigits 10 (fraction.drop 1))
    && (exponent.isEmpty || isDigits 10 (unsigned (exponent.drop 1)))

/-- A floating-point number: a name, or digits whose number is within the range of doubles. -/
def isFloat (t : Text) : Bool :=
  let body := unsigned t
  body = "inf".toList || body = "nan".toList ||
    (isDecimal body && (Number.decimal? (withoutUnderscores body)).any Number.Decimal.isFinite)

/-! ### Dates and times -/

/-- The number of exactly so many digits that open a text. -/
def fixed? (count : Nat) (t : Text) : Option (Nat × Text) :=
  if (t.take count).length = count ∧ (t.take count).all Char.isDigit then
    (Number.digitsValue? 10 (t.take count)).map fun value => (value, t.drop count)
  else none

/-- The number of days of a month. -/
def daysIn (year month : Nat) : Nat :=
  if month = 2 then (if year % 4 = 0 ∧ year % 100 ≠ 0 ∨ year % 400 = 0 then 29 else 28)
  else if month = 4 ∨ month = 6 ∨ month = 9 ∨ month = 11 then 30
  else 31

/-- The text after a date. -/
def afterDate? (t : Text) : Option Text := do
  let (year, rest) ← fixed? 4 t
  let '-' :: rest := rest | none
  let (month, rest) ← fixed? 2 rest
  let '-' :: rest := rest | none
  let (day, rest) ← fixed? 2 rest
  guard (1 ≤ month ∧ month ≤ 12 ∧ 1 ≤ day ∧ day ≤ daysIn year month)
  return rest

/-- The text after a time; the seconds may be missing. -/
def afterTime? (t : Text) : Option Text := do
  let (hour, rest) ← fixed? 2 t
  let ':' :: rest := rest | none
  let (minute, rest) ← fixed? 2 rest
  guard (hour ≤ 23 ∧ minute ≤ 59)
  match rest with
  | ':' :: rest =>
    let (second, rest) ← fixed? 2 rest
    guard (second ≤ 60)
    match rest with
    | '.' :: digits =>
      guard (digits.head?.any Char.isDigit)
      return digits.dropWhile Char.isDigit
    | _ => return rest
  | _ => return rest

/-- Nothing, or the offset of a time. -/
def isOffset (t : Text) : Bool :=
  match t with
  | [] | ['Z'] | ['z'] => true
  | sign :: rest =>
    (sign = '+' || sign = '-') &&
      match fixed? 2 rest with
      | some (hour, ':' :: rest) =>
        match fixed? 2 rest with
        | some (minute, []) => hour ≤ 23 && minute ≤ 59
        | _ => false
      | _ => false

/-- A date, a time, or both. -/
def isDateTime (t : Text) : Bool :=
  match afterDate? t with
  | some [] => true
  | some (divider :: rest) =>
    (divider = 'T' || divider = 't' || divider = ' ') &&
      match afterTime? rest with
      | some rest => isOffset rest
      | none => false
  | none => afterTime? t = some []

/-! ### Words -/

/-- A value without quotes. -/
def isPlain (t : Text) : Bool :=
  t = "true".toList || t = "false".toList || isInteger t || isFloat t || isDateTime t

/-- A character of values without quotes. -/
def isPlainChar (c : Char) : Bool :=
  c.isAlphanum || c = '_' || c = '+' || c = '-' || c = '.' || c = ':'

/-- The word that opens a text; a date may go on with a time after a space. -/
def takePlain (t : Text) : Text × Text :=
  let word := t.takeWhile isPlainChar
  match t.dropWhile isPlainChar with
  | ' ' :: c :: rest =>
    if afterDate? word = some [] && c.isDigit then
      (word ++ ' ' :: (c :: rest).takeWhile isPlainChar, (c :: rest).dropWhile isPlainChar)
    else (word, ' ' :: c :: rest)
  | rest => (word, rest)

end SyntaxGraft.Toml
