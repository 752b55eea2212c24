import SyntaxGraft.Diff.Basic
/-!
# A point that a shortest change passes through

Two lists span a grid: to go right is to delete an element of the old list, to go down is to insert
one of the new, and where two elements are equal there is a free diagonal step.  A shortest change
is a shortest way from the one corner to the other.  Two searches start from the two corners, and
each finds in its round `d` how far one gets on every diagonal with `d` steps that are not free.
Where they first overlap lies a point of a shortest way.
-/

namespace SyntaxGraft.Diff

universe u

variable {α : Type u} [BEq α]

/-- How far a search has come on each diagonal. -/
structure Frontier where
  reach : Array Nat
  /-- The place of diagonal zero. -/
  centre : Nat

namespace Frontier

/-- The frontier of a search that has not begun. -/
def start (rounds : Nat) : Frontier :=
  ⟨Array.replicate (2 * rounds + 3) 0, rounds + 1⟩

/-- How far the search has come on a diagonal. -/
def get (frontier : Frontier) (diagonal : Int) : Nat :=
  frontier.reach.getD (diagonal + frontier.centre).toNat 0

/-- The frontier with the reach on one diagonal set. -/
def set (frontier : Frontier) (diagonal : Int) (x : Nat) : Frontier :=
  { frontier with reach := frontier.reach.setIfInBounds (diagonal + frontier.centre).toNat x }

/-- Where a search enters a diagonal in a round, coming from the better of its neighbours. -/
def enter (frontier : Frontier) (round : Nat) (diagonal : Int) : Nat :=
  let higher := frontier.get (diagonal + 1)
  let lower := frontier.get (diagonal - 1)
  if diagonal = -round ∨ (diagonal ≠ round ∧ lower < higher) then higher else lower + 1

end Frontier

/-- A stretch of free steps, from where a search enters it. -/
structure Snake where
  x : Nat
  y : Nat
  length : Nat

/-- The number of free steps from a point on; at most `fuel`. -/
def freeSteps (old new : Array α) : Nat → Nat → Nat → Nat
  | 0, _, _ => 0
  | fuel + 1, x, y =>
    match old[x]?, new[y]? with
    | some a, some b => if a == b then freeSteps old new fuel (x + 1) (y + 1) + 1 else 0
    | _, _ => 0

/-- The diagonals that a round reaches, from the highest to the lowest. -/
def diagonals (round : Nat) : List Int :=
  (List.range (round + 1)).map fun (i : Nat) => (round : Int) - 2 * i

/-- A round of a search, up to the first snake that `meets` tells to be on a shortest way. -/
def sweep (old new : Array α) (round : Nat) (meets : Int → Nat → Bool) :
    List Int → Frontier → Frontier × Option Snake
  | [], frontier => (frontier, none)
  | diagonal :: rest, frontier =>
    let x := frontier.enter round diagonal
    let y := ((x : Int) - diagonal).toNat
    let length := freeSteps old new old.size x y
    let frontier := frontier.set diagonal (x + length)
    if meets diagonal (x + length) then (frontier, some ⟨x, y, length⟩)
    else sweep old new round meets rest frontier

/-- The rounds from a round on.  An overlap is looked for in the search from the start if the
lengths of the lists differ by an odd number, and in the search from the end otherwise. -/
def rounds (old new : Array α) : Nat → Nat → Frontier → Frontier → Option (Nat × Nat)
  | 0, _, _, _ => none
  | fuel + 1, round, forward, backward =>
    let size := old.size
    let difference := (size : Int) - (new.size : Int)
    let odd : Bool := difference % 2 = 1
    let overlaps (other : Frontier) (margin : Int) (diagonal : Int) (x : Nat) : Bool :=
      (diagonal - difference).natAbs ≤ margin && x + other.get (difference - diagonal) ≥ size
    match sweep old new round
        (fun diagonal x => odd && overlaps backward ((round : Int) - 1) diagonal x)
        (diagonals round) forward with
    | (_, some snake) => some (snake.x, snake.y)
    | (forward, none) =>
      match sweep old.reverse new.reverse round
          (fun diagonal x => !odd && overlaps forward round diagonal x)
          (diagonals round) backward with
      | (_, some snake) =>
        some (size - (snake.x + snake.length), new.size - (snake.y + snake.length))
      | (backward, none) => rounds old new fuel (round + 1) forward backward

/-- A point that a shortest change from the old list to the new passes through, as the numbers of
elements before it. -/
def middle? (old new : List α) : Option (Nat × Nat) :=
  let count := (old.length + new.length + 1) / 2 + 1
  rounds old.toArray new.toArray count 0 (.start count) (.start count)

end SyntaxGraft.Diff
