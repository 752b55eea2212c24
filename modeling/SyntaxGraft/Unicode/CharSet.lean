import SyntaxGraft.Text.Basic
/-!
# Sets of characters

A set of characters is a list of ranges of code points in order, with a gap between any two.  The
surrogates are code points but no characters, so U+D7FF is followed by U+E000 when a set is cut
there; two ranges that end and begin at these two stay apart all the same.

Tables are written as lines of text, one word for each range: `5f` for a single code point, `41-5a`
for a range with both ends, in hexadecimal.

`CharSet.mem_union`: a union has the characters of both sets.
-/

namespace SyntaxGraft.Unicode

/-! ### Hexadecimal numbers -/

/-- The value of a hexadecimal digit. -/
def hexDigit? (c : Char) : Option Nat :=
  let n := c.toNat
  if '0'.toNat ≤ n && n ≤ '9'.toNat then some (n - '0'.toNat)
  else if 'a'.toNat ≤ n && n ≤ 'f'.toNat then some (n - 'a'.toNat + 10)
  else if 'A'.toNat ≤ n && n ≤ 'F'.toNat then some (n - 'A'.toNat + 10)
  else none

/-- The number spelled by hexadecimal digits; other characters are passed over. -/
def hexValue (digits : List Char) : Nat :=
  (digits.filterMap hexDigit?).foldl (fun value digit => 16 * value + digit) 0

/-! ### Ranges -/

/-- The code points from the first to the last, both included. -/
structure CharRange where
  first : Nat
  last : Nat
deriving DecidableEq

namespace CharRange

/-- The range holds the code point. -/
def contains (range : CharRange) (code : Nat) : Bool :=
  range.first ≤ code && code ≤ range.last

/-- The second range, which does not begin before the first, overlaps it or begins right after
it. -/
def touches (a b : CharRange) : Bool :=
  a.first ≤ b.first && b.first ≤ a.last + 1

/-- Two ranges that touch as one. -/
def join (a b : CharRange) : CharRange :=
  ⟨a.first, max a.last b.last⟩

/-- What two ranges have in common. -/
def meet? (a b : CharRange) : Option CharRange :=
  if max a.first b.first ≤ min a.last b.last then
    some ⟨max a.first b.first, min a.last b.last⟩
  else none

/-- The range between two code points, given in either order. -/
def between (a b : Nat) : CharRange :=
  ⟨min a b, max a b⟩

/-- The range written as one word. -/
def ofWord (word : Text) : CharRange :=
  let first := word.takeWhile (· ≠ '-')
  let last := (word.dropWhile (· ≠ '-')).drop 1
  ⟨hexValue first, hexValue (if last.isEmpty then first else last)⟩

theorem contains_join {a b : CharRange} (h : a.touches b = true) (code : Nat) :
    (a.join b).contains code = (a.contains code || b.contains code) := by
  simp only [touches, Bool.and_eq_true, decide_eq_true_eq] at h
  rw [Bool.eq_iff_iff]
  simp only [contains, Bool.and_eq_true, Bool.or_eq_true, decide_eq_true_eq]
  simp only [join]
  omega

end CharRange

/-! ### Neighbours of a code point -/

/-- The largest code point. -/
def lastCode : Nat := 0x10FFFF

/-- The next character. -/
def nextCode (code : Nat) : Nat :=
  if code = 0xD7FF then 0xE000 else code + 1

/-- The character before. -/
def previousCode (code : Nat) : Nat :=
  if code = 0xE000 then 0xD7FF else code - 1

/-! ### Sets -/

/-- A set of characters. -/
structure CharSet where
  ranges : List CharRange
deriving DecidableEq

namespace CharSet

/-- Some range holds the code point. -/
def mem (set : CharSet) (code : Nat) : Bool :=
  set.ranges.any fun range => range.contains code

/-- Some range holds the character. -/
def contains (set : CharSet) (c : Char) : Bool :=
  set.mem c.toNat

/-- No character. -/
def empty : CharSet := ⟨[]⟩

/-- The characters from the first to the last. -/
def range (first last : Nat) : CharSet := ⟨[⟨first, last⟩]⟩

/-- One character. -/
def single (code : Nat) : CharSet := range code code

/-- Every character. -/
def all : CharSet := range 0 lastCode

/-- The set written as lines of text, its ranges in order. -/
def ofLines (lines : List String) : CharSet :=
  ⟨lines.flatMap fun line => (Text.splitWords ' ' line.toList).map CharRange.ofWord⟩

/-- A range and those after it, in the order of their first code points, where ranges that touch
become one. -/
def coalesce (current : CharRange) : List CharRange → List CharRange
  | [] => [current]
  | next :: rest =>
    if current.touches next then coalesce (current.join next) rest
    else current :: coalesce next rest

/-- The set of ranges that are in the order of their first code points. -/
def ofOrdered : List CharRange → CharSet
  | [] => empty
  | first :: rest => ⟨coalesce first rest⟩

/-- The ranges in the order of their first code points. -/
def precedes (a b : CharRange) : Bool :=
  a.first ≤ b.first

/-- The set of ranges in any order. -/
def ofRanges (ranges : List CharRange) : CharSet :=
  ofOrdered (ranges.mergeSort precedes)

/-- The set of these characters. -/
def ofCodes (codes : List Nat) : CharSet :=
  ofRanges (codes.map fun code => ⟨code, code⟩)

/-- The characters of either set. -/
def union (a b : CharSet) : CharSet :=
  ofOrdered (a.ranges.merge b.ranges precedes)

/-- The characters of any of the sets. -/
def unions (sets : List CharSet) : CharSet :=
  sets.foldl union empty

/-- The characters of both sets. -/
def inter (a b : CharSet) : CharSet :=
  ⟨a.ranges.flatMap fun range => b.ranges.filterMap range.meet?⟩

/-- What is left of ranges when others are taken away, both in order. -/
def subtract : List CharRange → List CharRange → List CharRange
  | [], _ => []
  | kept, [] => kept
  | a :: kept, b :: taken =>
    if b.last < a.first then subtract (a :: kept) taken
    else if a.last < b.first then a :: subtract kept (b :: taken)
    else
      let left := if a.first < b.first then [⟨a.first, previousCode b.first⟩] else []
      left ++
        if b.last < a.last then subtract (⟨nextCode b.last, a.last⟩ :: kept) taken
        else subtract kept (b :: taken)
termination_by kept taken => kept.length + taken.length

/-- The characters of the first set that are not in the second. -/
def diff (a b : CharSet) : CharSet :=
  ⟨subtract a.ranges b.ranges⟩

/-- The characters of exactly one of the sets. -/
def symmDiff (a b : CharSet) : CharSet :=
  (a.union b).diff (a.inter b)

/-- The ranges that ranges in order leave free after a code point. -/
def gapsAfter (last : Nat) : List CharRange → List CharRange
  | [] => if last < lastCode then [⟨nextCode last, lastCode⟩] else []
  | range :: rest =>
    .between (nextCode last) (previousCode range.first) :: gapsAfter range.last rest

/-- The characters that are not in the set. -/
def compl (set : CharSet) : CharSet :=
  match set.ranges with
  | [] => all
  | range :: rest =>
    let before := if 0 < range.first then [⟨0, previousCode range.first⟩] else []
    ⟨before ++ gapsAfter range.last rest⟩

/-- No character of the set is beyond ASCII. -/
def isAscii (set : CharSet) : Bool :=
  set.ranges.all fun range => range.last < 128

/-- The only character of the set, if it has just one. -/
def single? (set : CharSet) : Option Char :=
  match set.ranges with
  | [range] => if range.first = range.last then some (Char.ofNat range.first) else none
  | _ => none

/-! ### Membership -/

theorem any_coalesce (current : CharRange) (rest : List CharRange) (code : Nat) :
    (coalesce current rest).any (·.contains code) =
      (current.contains code || rest.any (·.contains code)) := by
  induction rest generalizing current with
  | nil => simp [coalesce]
  | cons next rest ih =>
    unfold coalesce
    split
    next h => rw [ih, CharRange.contains_join h, List.any_cons, Bool.or_assoc]
    next => rw [List.any_cons, ih, List.any_cons]

theorem mem_ofOrdered (ranges : List CharRange) (code : Nat) :
    (ofOrdered ranges).mem code = ranges.any (·.contains code) := by
  cases ranges with
  | nil => rfl
  | cons first rest => simp only [ofOrdered, mem, any_coalesce, List.any_cons]

/-- **Union is union.** -/
theorem mem_union (a b : CharSet) (code : Nat) :
    (a.union b).mem code = (a.mem code || b.mem code) := by
  rw [union, mem_ofOrdered, mem, mem, Bool.eq_iff_iff]
  simp only [List.any_eq_true, Bool.or_eq_true, List.mem_merge]
  constructor
  · rintro ⟨range, h | h, holds⟩
    · exact Or.inl ⟨range, h, holds⟩
    · exact Or.inr ⟨range, h, holds⟩
  · rintro (⟨range, h, holds⟩ | ⟨range, h, holds⟩)
    · exact ⟨range, Or.inl h, holds⟩
    · exact ⟨range, Or.inr h, holds⟩

end CharSet

end SyntaxGraft.Unicode
