import SyntaxGraft.Error
import SyntaxGraft.Graft.Pass
import SyntaxGraft.Selector.Cache
import SyntaxGraft.Tree.Print
/-!
# Searching and replacing in texts

`search` and `replace` work on texts.  Selectors are compiled through a cache, which is given and
given back; it changes no result.  Of several faults the first in this order is reported: the mode,
the selector, the replacement, the source.
-/

namespace SyntaxGraft

/-- A text after replacing. -/
structure Outcome where
  output : Text
  replacements : Nat

/-- Something was replaced. -/
def Outcome.changed (outcome : Outcome) : Bool :=
  0 < outcome.replacements

/-- A selector in a mode, compiled through a cache. -/
def Mode.compile (mode : Mode) (cache : SelectorCache) (text : Text) :
    Except SelectorError Compiled × SelectorCache :=
  match mode with
  | .selector => cache.compile text

/-- The nodes of a source that a compiled selector matches.  Where nothing can match, the source is
not parsed. -/
def Selector.search (selector : Selector) (grammar : Grammar) (source : Text) :
    Except SourceError (List Node) :=
  if selector.isEmpty then .ok []
  else (Tree.parse grammar source).map selector.evaluate

/-- The nodes of a source that a selector matches, in pre-order. -/
def search (grammar : Grammar) (mode : Mode) (cache : SelectorCache) (selector source : Text) :
    Except Error (List Node) × SelectorCache :=
  match mode.compile cache selector with
  | (.error error, cache) => (.error (.selector error), cache)
  | (.ok compiled, cache) =>
    match compiled.selector.search grammar source with
    | .error error => (.error (.source error), cache)
    | .ok nodes => (.ok nodes, cache)

/-- The source with every match of a compiled selector replaced. -/
def Selector.replace (selector : Selector) (grammar : Grammar) (fragment : Fragment)
    (source : Text) : Except SourceError Outcome :=
  match Tree.parse grammar source with
  | .error error => .error error
  | .ok tree =>
    let grafted := tree.graft selector fragment
    .ok ⟨grafted.tree.print, grafted.replaced⟩

/-- The source with every match of a selector replaced. -/
def replace (grammar : Grammar) (mode : Mode) (cache : SelectorCache)
    (selector replacement source : Text) : Except Error Outcome × SelectorCache :=
  match mode.compile cache selector with
  | (.error error, cache) => (.error (.selector error), cache)
  | (.ok compiled, cache) =>
    match Fragment.parse grammar replacement with
    | .error error => (.error (.replacement error), cache)
    | .ok fragment =>
      match compiled.selector.replace grammar fragment source with
      | .error error => (.error (.source error), cache)
      | .ok outcome => (.ok outcome, cache)

/-- What a mode of the given name makes of it, or the default mode where no name is given. -/
def withMode {α : Type} (name : Option Text) (cache : SelectorCache)
    (run : Mode → Except Error α × SelectorCache) : Except Error α × SelectorCache :=
  match name with
  | none => run .selector
  | some name =>
    match Mode.ofName? name with
    | some mode => run mode
    | none => (.error (.mode name), cache)

end SyntaxGraft
