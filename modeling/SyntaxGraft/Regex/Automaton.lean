import Std.Data.HashMap
import SyntaxGraft.Regex.ByteSequence
import SyntaxGraft.Regex.Shape
/-!
# The automaton of a pattern

A pattern is refused when the automata that would match it byte by byte are too large.  There are
two of them: one reads a text from its start, the other from its end.  Neither is built here; only
their states are counted, in the order in which they would be made, as the number of a state decides
where it is remembered.

Every state takes the same room, and more for every way that leads out of it if there can be many.
A class of characters beyond ASCII becomes a small automaton of its own.  The one that reads forward
shares states that lead the same way, the other those that were reached the same way; both look for
a state in a table of limited size, where a state can be overwritten by another.

`Pattern.fits` says whether both automata keep to the limit.
-/

namespace SyntaxGraft.Regex

open Unicode

/-! ### Counting states -/

/-- An automaton as far as it is made. -/
structure Automaton where
  /-- The number of states, which is the number that the next one gets. -/
  states : Nat := 0
  /-- The bytes that ways out of states take. -/
  wayBytes : Nat := 0

namespace Automaton

/-- The bytes of one state. -/
def stateBytes : Nat := 32

/-- The bytes of one way out of a state that reads a byte. -/
def transitionBytes : Nat := 8

/-- The bytes of one way out of a state that reads nothing. -/
def branchBytes : Nat := 4

/-- The most bytes an automaton may take. -/
def byteLimit : Nat := 10 * 1024 * 1024

/-- The bytes that the automaton takes. -/
def bytes (automaton : Automaton) : Nat :=
  stateBytes * automaton.states + automaton.wayBytes

/-- The automaton with more states and more bytes for ways out of them. -/
def add (automaton : Automaton) (states wayBytes : Nat) : Automaton :=
  ⟨automaton.states + states, automaton.wayBytes + wayBytes⟩

/-- The automaton, unless it is too large. -/
def checked (automaton : Automaton) : Option Automaton :=
  if automaton.bytes ≤ byteLimit then some automaton else none

end Automaton

/-! ### Tables of limited size -/

/-- The start of every hash. -/
def hashStart : UInt64 := 14695981039346656037

/-- A hash with one more number. -/
def hashStep (hash : UInt64) (value : Nat) : UInt64 :=
  (hash ^^^ UInt64.ofNat value) * 1099511628211

/-- A table that remembers the last state of each slot with its key. -/
structure StateTable (α : Type) where
  slots : Nat
  entries : Std.HashMap Nat (α × Nat) := {}

namespace StateTable

variable {α : Type}

/-- The slot of a hash. -/
def slot (table : StateTable α) (hash : UInt64) : Nat :=
  hash.toNat % table.slots

/-- The state that has the key, if its slot still remembers it. -/
def find? [DecidableEq α] (table : StateTable α) (hash : UInt64) (key : α) : Option Nat :=
  match table.entries[table.slot hash]? with
  | some (other, state) => if other = key then some state else none
  | none => none

/-- The table with a state in the slot of its hash. -/
def insert (table : StateTable α) (hash : UInt64) (key : α) (state : Nat) : StateTable α :=
  { table with entries := table.entries.insert (table.slot hash) (key, state) }

end StateTable

/-! ### Classes read forward -/

/-- A way out of a state: the bytes it reads, and where it leads. -/
structure Transition where
  range : ByteRange
  target : Nat
deriving DecidableEq

/-- A state that is not finished: its ways out, the last first, and the bytes that the way into the
next unfinished state reads. -/
structure OpenNode where
  done : List Transition := []
  pending : Option ByteRange := none

/-- The automaton of a class as far as it is made. -/
structure ForwardClass where
  automaton : Automaton
  /-- The state at the end of every character. -/
  target : Nat
  table : StateTable (List Transition) := { slots := 10000 }

namespace ForwardClass

/-- The hash of a state by its ways out. -/
def hashOf (transitions : List Transition) : UInt64 :=
  transitions.foldl (fun hash way =>
    hashStep (hashStep (hashStep hash way.range.first) way.range.last) way.target) hashStart

/-- The state with these ways out, made unless it is remembered. -/
def state (made : ForwardClass) (transitions : List Transition) : Nat × ForwardClass :=
  let hash := hashOf transitions
  match made.table.find? hash transitions with
  | some state => (state, made)
  | none =>
    let state := made.automaton.states
    (state, { made with
      automaton := made.automaton.add 1 (Automaton.transitionBytes * transitions.length)
      table := made.table.insert hash transitions state })

/-- The node with its pending way leading to a state. -/
def freeze (node : OpenNode) (target : Nat) : OpenNode :=
  match node.pending with
  | some range => ⟨⟨range, target⟩ :: node.done, none⟩
  | none => node

/-- The state of the first of some nodes, each of which leads into the next. -/
def finish (made : ForwardClass) : List OpenNode → Nat × ForwardClass
  | [] => (made.target, made)
  | node :: rest =>
    let (target, made) := made.finish rest
    made.state (freeze node target).done.reverse

/-- The open nodes after one more sequence.  Nodes that it shares with the last sequence stay open,
and those after them are finished. -/
def add (made : ForwardClass) : List OpenNode → ByteSequence → List OpenNode × ForwardClass
  | node :: rest, range :: ranges =>
    if node.pending = some range then
      let (rest, made) := made.add rest ranges
      (node :: rest, made)
    else
      let (target, made) := made.finish rest
      let node := { freeze node target with pending := some range }
      (node :: ranges.map fun range => { pending := some range }, made)
  | nodes, _ => (nodes, made)

/-- The automaton with a class. -/
def compile (automaton : Automaton) (set : CharSet) : Automaton :=
  let made : ForwardClass := { automaton := automaton.add 1 0, target := automaton.states }
  let (nodes, made) := (ByteSequence.ofSet set).foldl
    (fun (nodes, made) sequence => ForwardClass.add made nodes sequence) ([{}], made)
  (made.finish nodes).2.automaton

end ForwardClass

/-! ### Classes read backward -/

/-- The automaton of a class that is read from its end, as far as it is made. -/
structure BackwardClass where
  automaton : Automaton
  table : StateTable (Nat × ByteRange) := { slots := 1000 }

namespace BackwardClass

/-- The state that reads a range of bytes and leads to a state, made unless it is remembered. -/
def state (made : BackwardClass) (target : Nat) (range : ByteRange) : Nat × BackwardClass :=
  let hash := hashStep (hashStep (hashStep hashStart target) range.first) range.last
  match made.table.find? hash (target, range) with
  | some state => (state, made)
  | none =>
    let state := made.automaton.states
    (state, { automaton := made.automaton.add 1 0
              table := made.table.insert hash (target, range) state })

/-- The automaton after one more sequence, whose last byte is read first. -/
def add (made : BackwardClass) (target : Nat) : ByteSequence → BackwardClass
  | [] => { made with automaton := made.automaton.add 0 Automaton.branchBytes }
  | range :: ranges =>
    let (state, made) := made.state target range
    made.add state ranges

/-- The automaton with a class: a state that branches, the state at the end, and the ways between
them. -/
def compile (automaton : Automaton) (set : CharSet) : Automaton :=
  let target := automaton.states + 1
  let made : BackwardClass := { automaton := automaton.add 2 0 }
  ((ByteSequence.ofSet set).foldl (fun made sequence => made.add target sequence) made).automaton

end BackwardClass

/-! ### Literals as a tree -/

/-- A literal as the bytes that are read. -/
abbrev Word := List Nat

namespace Word

/-- The words of a state of the tree, divided where a word ends there.  `done` and `current` hold
what was read, the latest first; a state that words only end at is divided once. -/
def divide (isLeaf : Bool) (done : List (List Word)) (current : List Word) :
    List Word → List (List Word)
  | [] => (current.reverse :: done).reverse
  | [] :: words =>
    if isLeaf && !done.isEmpty then divide isLeaf done current words
    else divide isLeaf (current.reverse :: done) [] words
  | word :: words => divide false done (word :: current) words

/-- What follows the byte in the words that begin with it. -/
def tails (byte : Nat) (words : List Word) : List Word :=
  words.filterMap fun word => if word.head? = some byte then some word.tail else none

/-- The automaton with the states of a tree of words: for every state one that branches, and for
each of its parts that has ways out one that reads a byte.  The number bounds the depth. -/
def compile : Nat → List Word → Automaton → Automaton
  | 0, _, automaton => automaton
  | bound + 1, words, automaton =>
    let parts := divide true [] [] words
    let ways := parts.map fun part => (part.filterMap List.head?).eraseDups
    let below := (parts.zip ways).flatMap fun (part, bytes) => bytes.map fun byte => tails byte part
    let automaton := (below.filter fun words => words.any (!·.isEmpty)).foldl
      (fun automaton words => compile bound words automaton) automaton
    let automaton := (ways.filter (!·.isEmpty)).foldl (fun automaton bytes =>
      automaton.add 1 (if bytes.length = 1 then 0 else Automaton.transitionBytes * bytes.length))
      automaton
    let branches := (ways.filter (!·.isEmpty)).length + (parts.length - 1)
    automaton.add 1 (Automaton.branchBytes * branches)

end Word

/-! ### Shapes -/

namespace Shape

/-- The bytes of a character in the order in which they are read. -/
def readBytes (backward : Bool) (c : Char) : List Nat :=
  if backward then (utf8Bytes c.toNat).reverse else utf8Bytes c.toNat

/-- The bytes of a literal in the order in which they are read. -/
def word? (backward : Bool) : Shape → Option Word
  | .literal chars => some (chars.flatMap (readBytes backward))
  | _ => none

mutual

/-- The last state of the automaton is one that branches, so a way from it takes room. -/
def endsInBranch (backward : Bool) : Shape → Bool
  | .capture body => backward && body.endsInBranch backward
  | .rep body least none _ => 0 < least || body.leastBytes.any (0 < ·)
  | .rep body least (some most) _ => least == most && body.endsInBranch backward
  | .seq parts => lastEndsInBranch backward parts
  | .empty | .literal _ | .set _ | .look _ | .alt _ => false

/-- The last state of the last part is one that branches. -/
def lastEndsInBranch (backward : Bool) : List Shape → Bool
  | [] => false
  | [part] => part.endsInBranch backward
  | _ :: parts => lastEndsInBranch backward parts

end

/-- The bytes of the way out of the automaton of a shape. -/
def joinBytes (backward : Bool) (shape : Shape) : Nat :=
  if shape.endsInBranch backward then Automaton.branchBytes else 0

/-- The automaton with a class.  In ASCII it is one state. -/
def compileSet (backward : Bool) (members : CharSet) (automaton : Automaton) : Automaton :=
  if members.isAscii then
    automaton.add 2 (Automaton.transitionBytes * members.ranges.length)
  else if backward then BackwardClass.compile automaton members
  else ForwardClass.compile automaton members

/-- A step taken a number of times, as long as it succeeds. -/
def times (step : Automaton → Option Automaton) : Nat → Automaton → Option Automaton
  | 0, automaton => some automaton
  | count + 1, automaton =>
    match step automaton with
    | some automaton => times step count automaton
    | none => none

/-- The automaton with a repetition.  `once` adds the body, `join` is the room of a way out of it,
and `isTaking` says that the body takes at least one character. -/
def compileRep (once : Automaton → Option Automaton) (join : Nat) (isTaking : Bool) (least : Nat)
    (most : Option Nat) (automaton : Automaton) : Option Automaton :=
  let branch := Automaton.branchBytes
  let copy (automaton : Automaton) := (once automaton).map (·.add 0 join)
  match most with
  | none =>
    if least = 0 then
      if isTaking then (once (automaton.add 1 0)).map (·.add 0 (branch + join))
      else (once automaton).map (·.add 3 (4 * branch + join))
    else (times copy least automaton).map (·.add 1 branch)
  | some most =>
    if least = 0 && most = 1 then
      (once (automaton.add 1 0)).map (·.add 1 (2 * branch + join))
    else if least = most then do
      once (← times copy (least - 1) automaton)
    else do
      let fixed ← times copy least automaton
      let optional (automaton : Automaton) := copy (automaton.add 1 (2 * branch))
      times optional (most - least) (fixed.add (if least = 0 then 2 else 1) 0)

mutual

/-- The automaton with the states of a shape, unless it is too large. -/
def compile (backward : Bool) : Shape → Automaton → Option Automaton
  | .empty, automaton | .look _, automaton => (automaton.add 1 0).checked
  | .literal chars, automaton =>
    (automaton.add (chars.flatMap (readBytes backward)).length 0).checked
  | .set members, automaton => (compileSet backward members automaton).checked
  | .capture body, automaton =>
    if backward then body.compile backward automaton
    else do
      let automaton ← body.compile backward (automaton.add 1 0)
      (automaton.add 1 (body.joinBytes backward)).checked
  | .rep body least most _, automaton => do
    let automaton ← compileRep (fun automaton => body.compile backward automaton)
      (body.joinBytes backward) (body.leastBytes.any (0 < ·)) least most automaton
    automaton.checked
  | .seq parts, automaton => compileSeq backward parts automaton
  | .alt branches, automaton =>
    match branches.mapM (word? backward) with
    | some words =>
      let depth := words.foldl (fun depth word => max depth word.length) 0
      (Word.compile (depth + 1) words (automaton.add 1 0)).checked
    | none => compileBranches backward 0 branches automaton

/-- The automaton with the states of a sequence. -/
def compileSeq (backward : Bool) : List Shape → Automaton → Option Automaton
  | [], automaton => some automaton
  | [part], automaton => part.compile backward automaton
  | part :: parts, automaton => do
    let automaton ← part.compile backward automaton
    compileSeq backward parts (automaton.add 0 (part.joinBytes backward))

/-- The automaton with the states of branches, of which `count` are already there.  The states where
they part and meet are made after the second. -/
def compileBranches (backward : Bool) (count : Nat) :
    List Shape → Automaton → Option Automaton
  | [], automaton => automaton.checked
  | branch :: branches, automaton => do
    let automaton ← branch.compile backward automaton
    compileBranches backward (count + 1) branches
      (automaton.add (if count = 1 then 2 else 0)
        (Automaton.branchBytes + branch.joinBytes backward))

end

/-- The whole automaton.  Unless every match is anchored where reading begins, it starts with a loop
over any bytes; it ends with a state of its own. -/
def automaton? (backward : Bool) (shape : Shape) : Option Automaton := do
  let isAnchored := shape.beginsAt (if backward then .textEnd else .textStart)
  let start : Automaton :=
    if isAnchored then { states := 1 }
    else { states := 3, wayBytes := Automaton.transitionBytes + 2 * Automaton.branchBytes }
  let whole := Shape.capture shape
  let automaton ← whole.compile backward start
  (automaton.add 1 (whole.joinBytes backward)).checked

end Shape

/-- Neither automaton of the pattern is too large. -/
def Pattern.fits (pattern : Pattern) : Bool :=
  let shape := pattern.shape
  (shape.automaton? false).isSome && (shape.reverse.automaton? true).isSome

end SyntaxGraft.Regex
