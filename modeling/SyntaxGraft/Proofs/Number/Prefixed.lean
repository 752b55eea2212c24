import Mathlib.Data.Nat.Digits.Defs
import SyntaxGraft.Proofs.Parse.Conversion
import SyntaxGraft.Proofs.Tree.FieldList
/-!
# Number literals with a prefix

A literal such as `0xFF_FF` has a prefix that gives the radix, and then digits of that radix with
underscores between them.  What number it denotes is said here by `Nat.ofDigits`, without reading it
(`Literal.SpellsDigits`).

The reader goes by way of an unsigned machine word.  So a literal is read as the double nearest to
its number as long as this is below `2 ^ 64`, and from there on not at all; a node for such a
literal then holds its text where it should hold a number (`Literal.prefixed_fits_word`,
`Literal.prefixed_number_lost`).
-/

namespace SyntaxGraft.Literal

open Number

/-! ### Spelling -/

/-- The digits, in the order of their values. -/
def digitChars : List Char := "0123456789abcdef".toList

/-- The character is the digit of this value in the radix, a letter in either case. -/
def IsDigitOf (radix digit : Nat) (c : Char) : Prop :=
  digit < radix ∧ digitChars[digit]? = some c.toLower

/-- A text of digits of the radix, one at least, with any underscores between them. -/
inductive SpellsDigits (radix : Nat) : Text → List Nat → Prop
  | last {c : Char} {digit : Nat} (h : IsDigitOf radix digit c) : SpellsDigits radix [c] [digit]
  | next {c : Char} {digit : Nat} {gap rest : Text} {digits : List Nat}
      (h : IsDigitOf radix digit c) (hgap : ∀ x ∈ gap, x = '_')
      (hrest : SpellsDigits radix rest digits) :
      SpellsDigits radix (c :: (gap ++ rest)) (digit :: digits)

instance (radix digit : Nat) (c : Char) : Decidable (IsDigitOf radix digit c) :=
  inferInstanceAs (Decidable (_ ∧ _))

/-- The letters of the prefixes, with their radixes. -/
def radixLetters : List (Char × Nat) := [('x', 16), ('o', 8), ('b', 2)]

/-- Digits with nothing between them are one way for `SpellsDigits`. -/
theorem SpellsDigits.of_forall₂ {radix : Nat} {body : Text} {digits : List Nat} (hne : body ≠ [])
    (h : List.Forall₂ (IsDigitOf radix) digits body) : SpellsDigits radix body digits := by
  induction h with
  | nil => exact absurd rfl hne
  | @cons digit c digits rest hdigit hrest ih =>
    cases hrest with
    | nil => exact .last hdigit
    | cons _ _ => exact @next radix c digit [] _ _ hdigit (by simp) (ih (List.cons_ne_nil _ _))

/-! ### Reading -/

/-- A digit is none of the characters that mean something else: `_`, the suffix `n`, a sign. -/
theorem IsDigitOf.ne {radix digit : Nat} {c other : Char} (h : IsDigitOf radix digit c)
    (hother : other.toLower ∉ digitChars) : c ≠ other := by
  rintro rfl
  exact hother (List.mem_of_getElem? h.2)

/-- In `digitValue?` the radix only says which digits there are, not what they are worth. -/
theorem digitValue?_of_lt {radix other digit : Nat} {c : Char}
    (h : digitValue? other c = some digit) (hlt : digit < radix) :
    digitValue? radix c = some digit := by
  unfold digitValue? at h ⊢
  rw [Option.filter_eq_some_iff] at h ⊢
  exact ⟨h.1, decide_eq_true hlt⟩

theorem IsDigitOf.digitValue?_eq {radix digit : Nat} {c : Char} (h : IsDigitOf radix digit c) :
    digitValue? radix c.toLower = some digit := by
  -- The radix is any number, so the values are computed for the largest and cut down to it.
  obtain ⟨hradix, hchar⟩ := h
  have hvalues : ∀ digit < 16, digitChars[digit]?.bind (digitValue? 16) = some digit := by
    decide
  have hlt : digit < 16 := (List.getElem?_eq_some_iff.mp hchar).1
  have hvalue := hvalues digit hlt
  rw [hchar] at hvalue
  exact digitValue?_of_lt hvalue hradix

/-- `digitsFrom?` reads from the left, and multiplies by the radix before each digit. -/
theorem digitsFrom?_eq_foldl {radix : Nat} {digits : List Nat} {chars : Text}
    (h : List.Forall₂ (IsDigitOf radix) digits chars) (value : Nat) :
    digitsFrom? radix value (chars.map Char.toLower) =
      some (digits.foldl (fun value digit => radix * value + digit) value) := by
  induction h generalizing value with
  | nil => rfl
  | cons hdigit _ ih =>
    rw [List.map_cons, digitsFrom?, hdigit.digitValue?_eq]
    exact ih _

theorem IsDigitOf.filter_cons {radix digit : Nat} {c : Char} (h : IsDigitOf radix digit c)
    (rest : Text) : (c :: rest).filter (· ≠ '_') = c :: rest.filter (· ≠ '_') :=
  List.filter_cons_of_pos (by simpa using h.ne (by decide))

/-- Without their underscores, digits are a nonempty list of characters that `IsDigitOf` relates one
by one. -/
theorem SpellsDigits.forall₂_filter {radix : Nat} {body : Text} {digits : List Nat}
    (h : SpellsDigits radix body digits) :
    body.filter (· ≠ '_') ≠ [] ∧
      List.Forall₂ (IsDigitOf radix) digits (body.filter (· ≠ '_')) := by
  induction h with
  | last h =>
    rw [h.filter_cons]
    exact ⟨List.cons_ne_nil _ _, .cons h .nil⟩
  | @next c digit gap rest digits h hgap _ ih =>
    have hnone : gap.filter (· ≠ '_') = [] := by
      rw [List.filter_eq_nil_iff]
      intro x hx
      simp [hgap x hx]
    rw [h.filter_cons, List.filter_append, hnone]
    exact ⟨List.cons_ne_nil _ _, .cons h ih.2⟩

theorem exists_isDigitOf {radix : Nat} {digits : List Nat} {chars : Text} {c : Char}
    (h : List.Forall₂ (IsDigitOf radix) digits chars) (hc : c ∈ chars) :
    ∃ digit, IsDigitOf radix digit c := by
  induction h with
  | nil => exact absurd hc List.not_mem_nil
  | cons hdigit _ ih =>
    obtain rfl | hc := List.mem_cons.mp hc
    · exact ⟨_, hdigit⟩
    · exact ih hc

/-- `word?` reads the digits of a number below `2 ^ 64`, and refuses all others. -/
theorem word?_of_digits {radix : Nat} {digits : List Nat} {chars : Text} (hne : chars ≠ [])
    (h : List.Forall₂ (IsDigitOf radix) digits chars) :
    word? radix (chars.map Char.toLower) =
      if Nat.ofDigits radix digits.reverse < 2 ^ 64 then some (Nat.ofDigits radix digits.reverse)
      else none := by
  have hvalue : digitsValue? radix (chars.map Char.toLower) =
      some (Nat.ofDigits radix digits.reverse) := by
    -- `Nat.ofDigits` has the last digit first, so its fold is this one from the other end.
    rw [digitsValue?, if_neg (by simpa using hne), digitsFrom?_eq_foldl h,
      Nat.ofDigits_eq_foldr, List.foldr_reverse]
    simp only [Nat.cast_id, Nat.add_comm]
  -- A plus sign in front would be taken off before the digits are read, but it is no digit.
  have hplus : (chars.map Char.toLower).head? ≠ some '+' := by
    intro hhead
    obtain ⟨c, hc, hlower⟩ := List.mem_map.mp (List.mem_of_head? hhead)
    obtain ⟨digit, -, hchar⟩ := exists_isDigitOf h hc
    rw [hlower] at hchar
    exact absurd (List.mem_of_getElem? hchar) (by decide)
  have hmax : wordMax + 1 = 2 ^ 64 := by decide
  rw [word?_of_digitsValue? hplus hvalue]
  simp only [Nat.le_iff_lt_add_one, hmax]

/-- A literal with a prefix and without the suffix `n` is read by way of a machine word. -/
theorem number?_of_letter {letter : Char} {radix : Nat} {body : Text}
    (hletter : (letter.toLower, radix) ∈ radixLetters) (hne : body.filter (· ≠ '_') ≠ [])
    (hlast : (body.filter (· ≠ '_')).getLast? ≠ some 'n') :
    number? ('0' :: letter :: body) =
      (word? radix ((body.filter (· ≠ '_')).map Char.toLower)).map Binary64.ofNat := by
  -- The underscores go before the prefix is looked at, and the letter is none of them.
  have hkept : letter ≠ '_' := by
    rintro rfl
    revert hletter
    simp [radixLetters]
  have hdigits : ('0' :: letter :: body).filter (· ≠ '_') =
      '0' :: letter :: body.filter (· ≠ '_') := by
    simp [hkept]
  unfold number?
  dsimp only
  rw [hdigits, List.getLast?_cons_cons, List.getLast?_cons_of_ne_nil hne, if_neg hlast]
  simp only [radixLetters, List.mem_cons, Prod.mk.injEq, List.not_mem_nil, or_false] at hletter
  obtain ⟨hlower, rfl⟩ | ⟨hlower, rfl⟩ | ⟨hlower, rfl⟩ := hletter <;>
    rw [List.map_cons, List.map_cons, hlower] <;> rfl

/-- A number node holds under `value` the number of its literal, or the literal where that has none.
-/
theorem get?_value_number {text : Text} {row : Row} (children : List ParseTree) (next : Nat)
    (hrow : row.production = "number") :
    (Parse.convert text (.mk row children) next).1.get? "value" =
      some (.scalar (match number? (row.textIn text) with
        | some value => .number value
        | none => .str (String.ofList (row.textIn text)))) := by
  rw [Parse.convert]
  dsimp only [Node.get?, Node.fields]
  rw [Parse.attachScalars, hrow, if_neg (by decide)]
  show Fields.get? "value" (Fields.setScalar "raw" _ (Fields.setScalar "value" _ _)) = _
  -- What is set last, under another name, leaves the value alone.
  rw [Fields.setScalar_eq_alter, Fields.setScalar_eq_alter]
  exact (Fields.get?_alter_of_ne (by decide) _).trans (Fields.get?_alter_self _ _ _)

/-- **A literal with a prefix has a number just when that fits a machine word.**  The digits spell
one number whatever their length, their letter case and the underscores between them.  Below
`2 ^ 64` the literal is read as the double nearest to it, and a number node holds that double.  From
there on it is not read, and the node holds the text of the literal. -/
theorem prefixed_fits_word {letter : Char} {radix : Nat} {body : Text} {digits : List Nat}
    (hletter : (letter.toLower, radix) ∈ radixLetters) (hbody : SpellsDigits radix body digits) :
    let literal := '0' :: letter :: body
    let value := Nat.ofDigits radix digits.reverse
    number? literal = (if value < 2 ^ 64 then some (Binary64.ofNat value) else none) ∧
      ∀ (text : Text) (row : Row) (children : List ParseTree) (next : Nat),
        row.production = "number" → row.textIn text = literal →
          (Parse.convert text (.mk row children) next).1.get? "value" =
            some (.scalar (if value < 2 ^ 64 then .number (Binary64.ofNat value)
              else .str (String.ofList literal))) := by
  intro literal value
  obtain ⟨hne, hdigits⟩ := hbody.forall₂_filter
  -- The suffix `n` is no digit in any radix, so the literal is read by its prefix.
  have hlast : (body.filter (· ≠ '_')).getLast? ≠ some 'n' := by
    intro h
    obtain ⟨digit, hdigit⟩ := exists_isDigitOf hdigits (List.mem_of_getLast? h)
    exact hdigit.ne (by decide) rfl
  have hnumber : number? literal =
      (if value < 2 ^ 64 then some (Binary64.ofNat value) else none) := by
    rw [number?_of_letter hletter hne hlast, word?_of_digits hne hdigits]
    split
    · rfl
    · rfl
  refine ⟨hnumber, fun text row children next hrow htext => ?_⟩
  rw [get?_value_number children next hrow, htext, hnumber]
  by_cases hfits : value < 2 ^ 64
  · rw [if_pos hfits, if_pos hfits]
  · rw [if_neg hfits, if_neg hfits]

/-- The prefix and the digits in mixed case, with two underscores. -/
theorem prefixed_fits_word_mixed :
    number? "0Xf__F".toList = some (Binary64.ofNat 255) := by
  have hbody : SpellsDigits 16 "f__F".toList [15, 15] :=
    @SpellsDigits.next 16 'f' 15 ['_', '_'] ['F'] [15] (by decide) (by simp) (.last (by decide))
  exact (prefixed_fits_word (by decide : ('X'.toLower, 16) ∈ radixLetters) hbody).1

/-- **The shortest literal that does not fit is lost.**  It spells `2 ^ 64`, which a double holds
without rounding, and its node holds a string. -/
theorem prefixed_number_lost :
    SpellsDigits 16 "10000000000000000".toList (1 :: List.replicate 16 0) ∧
      Nat.ofDigits 16 (1 :: List.replicate 16 0).reverse = 2 ^ 64 ∧
      number? "0x10000000000000000".toList = none ∧
      (Parse.convert "0x10000000000000000;".toList (Sample.named "number" none 0 19 []) 2).1.get?
        "value" = some (.scalar (.str "0x10000000000000000")) := by
  have hlost : number? "0x10000000000000000".toList = none := by
    rw [← Option.isNone_iff_eq_none]
    decide
  refine ⟨.of_forall₂ (by decide) (by decide), by decide, hlost, ?_⟩
  rw [Sample.named, get?_value_number _ _ rfl]
  have htext : (Row.mk "number" .named none 0 19).textIn "0x10000000000000000;".toList =
      "0x10000000000000000".toList := by
    decide
  rw [htext, hlost, String.ofList_toList]

end SyntaxGraft.Literal
