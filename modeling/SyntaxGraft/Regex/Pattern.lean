import SyntaxGraft.Regex.CharClass
/-!
# Patterns and what they match

A pattern is matched by sets of positions.  A subject with `n` characters has `n + 1` positions, and
`Pattern.advance` takes the marks on the positions where a match may begin to the marks on those
where it may end.  Concatenation is composition, choice is union, and a repetition is iterated at
most once for every position, after which no step changes anything.

`Pattern.isMatch` asks whether the pattern matches some part of the subject.
-/

namespace SyntaxGraft.Regex

/-- What stands at a position. -/
inductive Look where
  | textStart
  | textEnd
  | lineStart
  | lineEnd
  /-- Start of a line, a carriage return ending a line too. -/
  | lineStartCrlf
  | lineEndCrlf
  | wordBoundary (unicode : Bool)
  | notWordBoundary (unicode : Bool)
  | wordStart (unicode : Bool)
  | wordEnd (unicode : Bool)
  /-- No word character before. -/
  | wordStartHalf (unicode : Bool)
  /-- No word character after. -/
  | wordEndHalf (unicode : Bool)
deriving DecidableEq

/-- A regular expression. -/
inductive Pattern where
  | empty
  | one (set : CharSet)
  | look (condition : Look)
  | seq (first second : Pattern)
  | alt (first second : Pattern)
  /-- A body in parentheses, which may capture what it matches. -/
  | group (captures : Bool) (body : Pattern)
  /-- From `least` to `most` times, without an upper bound if there is no `most`.  Whether as often
  as possible or as seldom changes no set of matches. -/
  | rep (body : Pattern) (least : Nat) (most : Option Nat) (greedy : Bool)

/-! ### Positions -/

/-- The characters before and after a position. -/
abbrev Neighbours := Option Char × Option Char

/-- The neighbours of every position of a text that follows `before`. -/
def neighboursFrom (before : Option Char) : List Char → List Neighbours
  | [] => [(before, none)]
  | c :: rest => (before, some c) :: neighboursFrom (some c) rest

/-- A text with the neighbours of its positions. -/
structure Subject where
  chars : List Char
  neighbours : List Neighbours

/-- A text as a subject. -/
def Subject.ofText (chars : List Char) : Subject :=
  ⟨chars, neighboursFrom none chars⟩

/-- A mark for every position. -/
abbrev Marks := List Bool

/-- Marks on the positions of either. -/
def Marks.union (a b : Marks) : Marks :=
  List.zipWith (· || ·) a b

/-- The character is one of a word. -/
def isWordChar (unicode : Bool) : Option Char → Bool
  | none => false
  | some c => (CharClass.word unicode).contains c

/-- The condition holds at a position with these neighbours. -/
def Look.holds (look : Look) : Neighbours → Bool
  | (before, after) =>
    match look with
    | .textStart => before.isNone
    | .textEnd => after.isNone
    | .lineStart => before.isNone || before == some '\n'
    | .lineEnd => after.isNone || after == some '\n'
    | .lineStartCrlf =>
      before.isNone || before == some '\n' || (before == some '\r' && after != some '\n')
    | .lineEndCrlf =>
      after.isNone || after == some '\r' || (after == some '\n' && before != some '\r')
    | .wordBoundary u => isWordChar u before != isWordChar u after
    | .notWordBoundary u => isWordChar u before == isWordChar u after
    | .wordStart u => !isWordChar u before && isWordChar u after
    | .wordEnd u => isWordChar u before && !isWordChar u after
    | .wordStartHalf u => !isWordChar u before
    | .wordEndHalf u => !isWordChar u after

/-! ### Matching -/

/-- A function applied a number of times.  Marks that a step leaves as they are stay so, which ends
the work early. -/
def iterate (step : Marks → Marks) : Nat → Marks → Marks
  | 0, marks => marks
  | count + 1, marks =>
    let next := step marks
    if next = marks then marks else iterate step count next

namespace Pattern

/-- The positions where a match can end, from those where it can begin. -/
def advance (subject : Subject) : Pattern → Marks → Marks
  | .empty, marks => marks
  | .one set, marks =>
    false :: List.zipWith (fun mark (c : Char) => mark && set.contains c) marks subject.chars
  | .look condition, marks =>
    List.zipWith (fun mark neighbours => mark && condition.holds neighbours) marks
      subject.neighbours
  | .seq first second, marks => second.advance subject (first.advance subject marks)
  | .alt first second, marks =>
    Marks.union (first.advance subject marks) (second.advance subject marks)
  | .group _ body, marks => body.advance subject marks
  | .rep body least most _, marks =>
    let once := body.advance subject
    let bound := subject.neighbours.length
    let again := match most with
      | none => bound
      | some most => min (most - least) bound
    let reached := iterate once (min least bound) marks
    iterate (fun marks => Marks.union marks (once marks)) again reached

/-- The pattern matches some part of a text. -/
def isMatch (pattern : Pattern) (text : List Char) : Bool :=
  let subject := Subject.ofText text
  (pattern.advance subject (subject.neighbours.map fun _ => true)).any fun mark => mark

end Pattern

end SyntaxGraft.Regex
