import SyntaxGraft.Selector.Compile
/-!
# A cache of compiled selectors

Rule files and directory walks compile the same selectors over and over.  The cache keeps what was
compiled under its text.  It holds at most `SelectorCache.capacity` selectors: when one more comes,
all others go.  A selector that does not compile leaves the cache as it is.

Each compilation gets a serial number, so two results are the same object exactly when their serial
numbers agree.
-/

namespace SyntaxGraft

/-- A selector together with the number of its compilation. -/
structure Compiled where
  serial : Nat
  selector : Selector

/-- The selectors compiled so far. -/
structure SelectorCache where
  entries : List (Text × Compiled) := []
  /-- The number of the next compilation. -/
  nextSerial : Nat := 0

namespace SelectorCache

/-- The most selectors that are kept. -/
def capacity : Nat := 256

/-- The number of selectors kept. -/
def size (cache : SelectorCache) : Nat :=
  cache.entries.length

/-- The cache without its selectors. -/
def clear (cache : SelectorCache) : SelectorCache :=
  { cache with entries := [] }

/-- The selector kept under a text. -/
def find? (cache : SelectorCache) (text : Text) : Option Compiled :=
  (cache.entries.find? fun entry => entry.1 = text).map Prod.snd

/-- The cache with a newly compiled selector. -/
def insert (cache : SelectorCache) (text : Text) (selector : Selector) : SelectorCache :=
  let kept := if capacity ≤ cache.size then [] else cache.entries
  ⟨(text, ⟨cache.nextSerial, selector⟩) :: kept, cache.nextSerial + 1⟩

/-- The selector of a text, from the cache or else compiled and kept, with the cache after it. -/
def compile (cache : SelectorCache) (text : Text) :
    Except SelectorError Compiled × SelectorCache :=
  match cache.find? text with
  | some compiled => (.ok compiled, cache)
  | none =>
    match Selector.compile text with
    | .error error => (.error error, cache)
    | .ok selector => (.ok ⟨cache.nextSerial, selector⟩, cache.insert text selector)

/-- The caches after compiling some texts in turn, and how many of them compiled. -/
def compileAll (cache : SelectorCache) : List Text → Nat × SelectorCache
  | [] => (0, cache)
  | text :: rest =>
    let (result, cache) := cache.compile text
    let (count, cache) := cache.compileAll rest
    (match result with | .ok _ => count + 1 | .error _ => count, cache)

end SelectorCache

end SyntaxGraft
