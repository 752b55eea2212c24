import SyntaxGraft.Regex.Escape
/-!
# Bracketed classes

A bracket holds characters, ranges, escapes, named classes and further brackets; between such unions
stand the operations `&&`, `--` and `~~`, which group to the left.  Case is folded in each operand
and in the whole before the bracket is negated.
-/

namespace SyntaxGraft.Regex

/-- A piece of syntax that was read, with the depth to which it nests. -/
structure Nested (α : Type) where
  value : α
  depth : Nat

namespace Bracket

/-- The operations on sets. -/
inductive SetOp where
  | inter
  | diff
  | symmDiff

/-- The set that an operation makes. -/
def SetOp.apply : SetOp → CharSet → CharSet → CharSet
  | .inter, a, b => a.inter b
  | .diff, a, b => a.diff b
  | .symmDiff, a, b => a.symmDiff b

/-- A union that is being read: its set, its number of items and the depth of the deepest. -/
structure Union where
  set : CharSet := .empty
  items : Nat := 0
  depth : Nat := 0

/-- The union with one more item. -/
def Union.add (union : Union) (set : CharSet) (depth : Nat) : Union :=
  ⟨union.set.union set, union.items + 1, max union.depth depth⟩

/-- The union as one operand; two items or more make it deeper by one. -/
def Union.operand (union : Union) : Nested CharSet :=
  ⟨union.set, if union.items ≤ 1 then union.depth else union.depth + 1⟩

/-- The operand that closes what is pending on its left. -/
def closeOp (flags : Flags) (pending : Option (SetOp × Nested CharSet)) (right : Nested CharSet) :
    Nested CharSet :=
  match pending with
  | none => right
  | some (op, left) =>
    ⟨op.apply (flags.fold left.value) (flags.fold right.value), max left.depth right.depth + 1⟩

/-- What stands in a bracket at one place: a character, or a set that cannot begin a range. -/
inductive Member where
  | char (c : Char)
  | set (members : CharSet)

/-- A single member: an escape or a character. -/
def member (flags : Flags) : Text → Option (Member × Text)
  | [] => none
  | '\\' :: rest => do
    match ← Escape.read flags rest with
    | (.literal c, rest) => return (.char c, rest)
    | (.set members, rest) => return (.set members, rest)
    | (.look _, _) => none
  | c :: rest => some (.char c, rest)

/-- A character that a bracket may hold. -/
def allows (flags : Flags) (c : Char) : Bool :=
  flags.unicode || c.toNat < 128

/-- The first character that is not blank, where the mark of a remark counts as blank once and what
follows it counts as any other text. -/
def firstMarked (isMarked : Bool) : Text → Option Char
  | [] => none
  | c :: rest =>
    if isBlank c then firstMarked isMarked rest
    else if c == '#' && !isMarked then firstMarked true rest
    else some c

/-- The character that decides what a hyphen before it means. -/
def decider (flags : Flags) (t : Text) : Option Char :=
  if flags.verbose then firstMarked false t <|> t.head? else t.head?

/-- A hyphen here stands between the ends of a range: what follows it neither closes the bracket nor
makes it an operation. -/
def isRangeHyphen (flags : Flags) : Text → Bool
  | '-' :: rest => decider flags rest != some ']' && decider flags rest != some '-'
  | _ => false

/-- A member, or a range of characters. -/
def item (flags : Flags) (t : Text) : Option (CharSet × Text) := do
  let (first, rest) ← member flags t
  let rest := flags.skip rest
  if isRangeHyphen flags rest then
    let (last, rest) ← member flags (flags.skip (rest.drop 1))
    match first, last with
    | .char first, .char last =>
      guard (allows flags first && allows flags last && first.toNat ≤ last.toNat)
      return (.range first.toNat last.toNat, rest)
    | _, _ => none
  else
    match first with
    | .char c =>
      guard (allows flags c)
      return (.single c.toNat, rest)
    | .set members => return (members, rest)

/-- A named class such as `[:alpha:]` or `[:^alpha:]`, the opening bracket already read: its
members, and whether the others are meant. -/
def namedClass (flags : Flags) (t : Text) : Option (CharSet × Bool × Text) := do
  let ':' :: rest := t | none
  let negated := rest.head? = some '^'
  let (name, rest) ← Escape.splitOnce [':'] (if negated then rest.drop 1 else rest)
  let ']' :: rest := rest | none
  let set := flags.fold (← CharClass.posix? (String.ofList name))
  return (set, negated, rest)

/-- The hyphens that open a bracket; they stand for themselves. -/
def leadingHyphens (flags : Flags) : Nat → Union → Text → Union × Text
  | 0, union, t => (union, t)
  | bound + 1, union, '-' :: rest =>
    leadingHyphens flags bound (union.add (.single '-'.toNat) 0) (flags.skip rest)
  | _ + 1, union, t => (union, t)

/-- What opens a bracket: hyphens, or else a closing bracket that stands for itself. -/
def leading (flags : Flags) (t : Text) : Union × Text :=
  match leadingHyphens flags t.length {} t with
  | (union, ']' :: rest) =>
    if union.items = 0 then (union.add (.single ']'.toNat) 0, flags.skip rest)
    else (union, ']' :: rest)
  | opened => opened

/-- The set, negated if the others are meant. -/
def orOthers (flags : Flags) (negated : Bool) (set : CharSet) : Option CharSet :=
  if negated then flags.negate? set else some set

/-- The bracket from its set: folded, then negated. -/
def close (flags : Flags) (negated : Bool) (operand : Nested CharSet) : Option (Nested CharSet) :=
  (orOthers flags negated (flags.fold operand.value)).map fun set => ⟨set, operand.depth + 1⟩

/-- The members of a bracket up to the one that closes it.  `inner` reads a bracket within, and the
number bounds the steps. -/
def members (flags : Flags) (inner : Text → Option (Nested CharSet × Text)) (negated : Bool) :
    Nat → Option (SetOp × Nested CharSet) → Union → Text → Option (Nested CharSet × Text)
  | 0, _, _, _ => none
  | bound + 1, pending, union, t =>
    let operate (op : SetOp) (rest : Text) :=
      members flags inner negated bound (some (op, closeOp flags pending union.operand)) {} rest
    match flags.skip t with
    | [] => none
    | ']' :: rest =>
      (close flags negated (closeOp flags pending union.operand)).map fun bracket => (bracket, rest)
    | '&' :: '&' :: rest => operate .inter rest
    | '-' :: '-' :: rest => operate .diff rest
    | '~' :: '~' :: rest => operate .symmDiff rest
    | '[' :: rest =>
      match namedClass flags rest with
      | some (set, others, rest) => do
        let set ← orOthers flags others set
        members flags inner negated bound pending (union.add set 0) rest
      | none => do
        let (bracket, rest) ← inner rest
        members flags inner negated bound pending (union.add bracket.value bracket.depth) rest
    | rest => do
      let (set, rest) ← item flags rest
      members flags inner negated bound pending (union.add set 0) rest

/-- A bracketed class, the opening bracket already read.  The number bounds the depth. -/
def read (flags : Flags) : Nat → Text → Option (Nested CharSet × Text)
  | 0, _ => none
  | bound + 1, t =>
    let t := flags.skip t
    let negated := t.head? = some '^'
    let (union, rest) := leading flags (if negated then flags.skip (t.drop 1) else t)
    members flags (read flags bound) negated (rest.length + 1) none union rest

end Bracket

end SyntaxGraft.Regex
