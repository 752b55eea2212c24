/-!
# Digits

Reading and writing natural numbers in a radix, on lists of characters.  `digitsValue?` accepts
exactly the non-empty digit lists of its radix.
-/

namespace SyntaxGraft.Number

/-- The value of a digit of a radix up to 36, letters in either case. -/
def digitValue? (radix : Nat) (c : Char) : Option Nat :=
  let n := c.toNat
  let value? :=
    if '0'.toNat ≤ n && n ≤ '9'.toNat then some (n - '0'.toNat)
    else if 'a'.toNat ≤ n && n ≤ 'z'.toNat then some (n - 'a'.toNat + 10)
    else if 'A'.toNat ≤ n && n ≤ 'Z'.toNat then some (n - 'A'.toNat + 10)
    else none
  value?.filter (· < radix)

/-- The number that digits extend `value` to, when all of them are digits of the radix. -/
def digitsFrom? (radix value : Nat) : List Char → Option Nat
  | [] => some value
  | c :: rest => do
    let digit ← digitValue? radix c
    digitsFrom? radix (radix * value + digit) rest

/-- The number spelled by a non-empty list of digits. -/
def digitsValue? (radix : Nat) (digits : List Char) : Option Nat :=
  if digits.isEmpty then none else digitsFrom? radix 0 digits

/-- The largest unsigned machine word. -/
def wordMax : Nat := Nat.pow 2 64 - 1

/-- An unsigned machine word: digits of the radix, a plus sign allowed in front. -/
def word? (radix : Nat) (text : List Char) : Option Nat :=
  let digits := match text with
    | '+' :: rest => rest
    | _ => text
  (digitsValue? radix digits).filter (· ≤ wordMax)

/-- Digits are a machine word as long as their number is not too large. -/
theorem word?_of_digitsValue? {radix value : Nat} {text : List Char}
    (hplus : text.head? ≠ some '+') (h : digitsValue? radix text = some value) :
    word? radix text = if value ≤ wordMax then some value else none := by
  unfold word?
  dsimp only
  split
  · exact absurd rfl hplus
  · rw [h, Option.filter_some]
    simp only [decide_eq_true_eq]

/-- The decimal digits of a number. -/
def decimal (n : Nat) : List Char :=
  Nat.toDigits 10 n

end SyntaxGraft.Number
