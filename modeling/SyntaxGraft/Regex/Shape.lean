import SyntaxGraft.Regex.Pattern
/-!
# The shape of a pattern

How a pattern is laid out before an automaton is made of it.  Sequences and alternatives are flat;
characters side by side are one literal; alternatives that are single characters, or classes, are
one class; and what all alternatives begin with stands before them.

The shape matches what the pattern matches.  It is made only to find out how large the automaton
is.
-/

namespace SyntaxGraft.Regex

/-- A pattern as it is laid out. -/
inductive Shape where
  | empty
  /-- Characters one after the other, at least one. -/
  | literal (chars : List Char)
  | set (members : CharSet)
  | look (condition : Look)
  | capture (body : Shape)
  | rep (body : Shape) (least : Nat) (most : Option Nat) (greedy : Bool)
  /-- At least two parts, none of them a sequence or empty. -/
  | seq (parts : List Shape)
  /-- At least two branches. -/
  | alt (branches : List Shape)

namespace Shape

/-! ### Equality -/

mutual

/-- The shapes are equal.  Captures have numbers of their own, so no two are. -/
def same : Shape → Shape → Bool
  | .empty, .empty => true
  | .literal a, .literal b => a == b
  | .set a, .set b => a == b
  | .look a, .look b => a == b
  | .rep a least most greedy, .rep b least' most' greedy' =>
    a.same b && least == least' && most == most' && greedy == greedy'
  | .seq as, .seq bs => sameAll as bs
  | .alt as, .alt bs => sameAll as bs
  | _, _ => false

/-- The lists have equal shapes. -/
def sameAll : List Shape → List Shape → Bool
  | [], [] => true
  | a :: as, b :: bs => a.same b && sameAll as bs
  | _, _ => false

end

/-! ### Lengths -/

/-- The bytes of a character in UTF-8. -/
def charBytes (code : Nat) : Nat :=
  if code < 0x80 then 1 else if code < 0x800 then 2 else if code < 0x10000 then 3 else 4

mutual

/-- The bytes of the shortest match; nothing if an empty class leaves no match. -/
def leastBytes : Shape → Option Nat
  | .empty | .look _ => some 0
  | .literal chars => some (chars.foldl (fun bytes c => bytes + charBytes c.toNat) 0)
  | .set members => members.ranges.head?.map fun range => charBytes range.first
  | .capture body => body.leastBytes
  | .rep body least _ _ => body.leastBytes.map fun bytes => bytes * least
  | .seq parts => leastBytesSum parts
  | .alt branches => leastBytesMin branches

/-- The bytes of the shortest matches of all parts together. -/
def leastBytesSum : List Shape → Option Nat
  | [] => some 0
  | part :: parts => do return (← part.leastBytes) + (← leastBytesSum parts)

/-- The bytes of the shortest match of any branch. -/
def leastBytesMin : List Shape → Option Nat
  | [] => none
  | [branch] => branch.leastBytes
  | branch :: branches => do return min (← branch.leastBytes) (← leastBytesMin branches)

end

mutual

/-- Every match is empty. -/
def isZeroWidth : Shape → Bool
  | .empty | .look _ => true
  | .literal _ | .set _ => false
  | .capture body => body.isZeroWidth
  | .rep body _ most _ => most.isSome && body.isZeroWidth
  | .seq parts => areZeroWidth parts
  | .alt branches => areZeroWidth branches

/-- Every match of every shape is empty. -/
def areZeroWidth : List Shape → Bool
  | [] => true
  | shape :: shapes => shape.isZeroWidth && areZeroWidth shapes

end

/-! ### Anchors -/

mutual

/-- Every match begins where the condition holds.  A sequence has the conditions of its parts up to
the first that can take a character. -/
def beginsAt (condition : Look) : Shape → Bool
  | .look own => own == condition
  | .capture body => body.beginsAt condition
  | .rep body least _ _ => 0 < least && body.beginsAt condition
  | .seq parts => seqBeginsAt condition parts
  | .alt branches => allBeginAt condition branches
  | .empty | .literal _ | .set _ => false

/-- A sequence begins where the condition holds. -/
def seqBeginsAt (condition : Look) : List Shape → Bool
  | [] => false
  | part :: parts =>
    part.beginsAt condition || (part.isZeroWidth && seqBeginsAt condition parts)

/-- All branches begin where the condition holds. -/
def allBeginAt (condition : Look) : List Shape → Bool
  | [] => true
  | branch :: branches => branch.beginsAt condition && allBeginAt condition branches

end

mutual

/-- The shape read from its end. -/
def reverse : Shape → Shape
  | .literal chars => .literal chars.reverse
  | .capture body => .capture body.reverse
  | .rep body least most greedy => .rep body.reverse least most greedy
  | .seq parts => .seq (reverseAll parts).reverse
  | .alt branches => .alt (reverseAll branches)
  | .empty => .empty
  | .set members => .set members
  | .look condition => .look condition

/-- The shapes, each read from its end. -/
def reverseAll : List Shape → List Shape
  | [] => []
  | shape :: shapes => shape.reverse :: reverseAll shapes

end

/-! ### Putting shapes together -/

/-- The shape of a class: a class of one character is a literal. -/
def ofSet (members : CharSet) : Shape :=
  match members.single? with
  | some c => .literal [c]
  | none => .set members

/-- The parts of a sequence that the shape makes up. -/
def parts : Shape → List Shape
  | .empty => []
  | .seq parts => parts
  | shape => [shape]

/-- The parts with literals side by side as one. -/
def joinLiterals : List Shape → List Shape
  | [] => []
  | .literal chars :: rest =>
    match joinLiterals rest with
    | .literal more :: rest => .literal (chars ++ more) :: rest
    | rest => .literal chars :: rest
  | shape :: rest => shape :: joinLiterals rest

/-- The sequence of shapes. -/
def concat (shapes : List Shape) : Shape :=
  match joinLiterals (shapes.flatMap parts) with
  | [] => .empty
  | [shape] => shape
  | parts => .seq parts

/-- A repetition.  What is always empty is repeated at most once. -/
def repetition (body : Shape) (least : Nat) (most : Option Nat) (greedy : Bool) : Shape :=
  let least' := if body.isZeroWidth then min least 1 else least
  let most' := if body.isZeroWidth then some (min (most.getD 1) 1) else most
  if least' = 0 && most' = some 0 then .empty
  else if least' = 1 && most' = some 1 then body
  else .rep body least' most' greedy

/-- The branches that the shape makes up. -/
def branches : Shape → List Shape
  | .alt branches => branches
  | shape => [shape]

/-- The character of a literal that has just one. -/
def singleChar? : Shape → Option Nat
  | .literal [c] => some c.toNat
  | _ => none

/-- The members of a class. -/
def members? : Shape → Option CharSet
  | .set members => some members
  | _ => none

/-- The parts of a sequence. -/
def sequence? : Shape → Option (List Shape)
  | .seq parts => some parts
  | _ => none

/-- How many shapes two lists have in common at their start. -/
def commonLength : List Shape → List Shape → Nat
  | a :: as, b :: bs => if a.same b then commonLength as bs + 1 else 0
  | _, _ => 0

/-- The number of parts with which all sequences begin alike. -/
def commonStart : List (List Shape) → Nat
  | [] => 0
  | first :: rest => rest.foldl (fun length parts => min length (commonLength first parts))
      first.length

/-- The alternatives as one shape.  The number bounds how often a common start is set apart. -/
def alternationWith : Nat → List Shape → Shape
  | 0, shapes => .alt shapes
  | bound + 1, shapes =>
    match shapes.flatMap branches with
    | [] => .set .empty
    | [shape] => shape
    | all =>
      match all.mapM singleChar? with
      | some codes => ofSet (.ofCodes codes)
      | none =>
        match all.mapM members? with
        | some sets => ofSet (.unions sets)
        | none =>
          match all.mapM sequence? with
          | some sequences@(first :: _) =>
            let length := commonStart sequences
            if length = 0 then .alt all
            else
              let rests := sequences.map fun parts => concat (parts.drop length)
              concat (first.take length ++ [alternationWith bound rests])
          | _ => .alt all

mutual

/-- The number of parts at all levels. -/
def size : Shape → Nat
  | .capture body | .rep body _ _ _ => body.size + 1
  | .seq shapes | .alt shapes => sizes shapes + 1
  | .empty | .literal _ | .set _ | .look _ => 1

/-- The number of parts of all shapes. -/
def sizes : List Shape → Nat
  | [] => 0
  | shape :: shapes => shape.size + sizes shapes

end

/-- The alternatives as one shape.  Every common start takes parts away, so their number is bound
enough. -/
def alternation : List Shape → Shape
  | [shape] => shape
  | shapes => alternationWith (sizes shapes + 1) shapes

end Shape

/-! ### Shapes of patterns -/

/-- The shapes of the branches that a pattern has outside all groups. -/
def Pattern.shapes : Pattern → List Shape
  | .empty => [.empty]
  | .one set => [.ofSet set]
  | .look condition => [.look condition]
  | .seq first second => [.concat [.alternation first.shapes, .alternation second.shapes]]
  | .alt first second => .alternation first.shapes :: second.shapes
  | .group captures body =>
    [if captures then .capture (.alternation body.shapes) else .alternation body.shapes]
  | .rep body least most greedy => [.repetition (.alternation body.shapes) least most greedy]

/-- How a pattern is laid out. -/
def Pattern.shape (pattern : Pattern) : Shape :=
  .alternation pattern.shapes

end SyntaxGraft.Regex
