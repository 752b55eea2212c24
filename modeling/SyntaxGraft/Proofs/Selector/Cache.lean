import SyntaxGraft.Selector.Cache
/-!
# The cache changes no result

Whatever was compiled before, a cache keeps under each text what that text compiles to
(`SelectorCache.Reached.compile_of_find?`), so compiling through the cache gives what compiling
gives (`SelectorCache.Reached.compile_of_ok`, `SelectorCache.Reached.map_selector_compile`).
-/

namespace SyntaxGraft.SelectorCache

/-- The caches that `compile` and `clear` lead to from an empty one. -/
inductive Reached : SelectorCache → Prop
  | empty : Reached {}
  | compile {cache : SelectorCache} (text : Text) (h : Reached cache) :
      Reached (cache.compile text).2
  | clear {cache : SelectorCache} (h : Reached cache) : Reached cache.clear

/-- What is found after an `insert` is what was inserted, or was found before.  The converse fails
where the cache was full, and is not needed. -/
theorem find?_insert {cache : SelectorCache} {text other : Text} {selector : Selector}
    {compiled : Compiled} (h : (cache.insert text selector).find? other = some compiled) :
    (text = other ∧ compiled.selector = selector) ∨ cache.find? other = some compiled := by
  obtain ⟨entry, hentry, rfl⟩ := Option.map_eq_some_iff.mp h
  rw [insert, List.find?_cons] at hentry
  split at hentry
  next heq =>
    obtain rfl := Option.some.inj hentry
    exact Or.inl ⟨of_decide_eq_true heq, rfl⟩
  next =>
    split at hentry
    · cases hentry
    · exact Or.inr (Option.map_eq_some_iff.mpr ⟨entry, hentry, rfl⟩)

namespace Reached

variable {cache : SelectorCache} {text : Text} {compiled : Compiled}

/-- **Every entry is the compilation of its text.**  By induction on how the cache was reached; only
a text that is new and compiles puts an entry in. -/
theorem compile_of_find? (h : cache.Reached) (hfind : cache.find? text = some compiled) :
    Selector.compile text = .ok compiled.selector := by
  induction h with
  | empty => cases hfind
  | @compile cache other h ih =>
    -- kept already, refused, or new
    rw [SelectorCache.compile] at hfind
    split at hfind
    · exact ih hfind
    · split at hfind
      · exact ih hfind
      next selector hselector =>
        rcases find?_insert hfind with ⟨rfl, rfl⟩ | hbefore
        · exact hselector
        · exact ih hbefore
  | clear => cases hfind

/-- What the cache hands out for a text is what the text compiles to (`Selector.compile`). -/
theorem compile_of_ok (h : cache.Reached) {after : SelectorCache}
    (hcompile : cache.compile text = (.ok compiled, after)) :
    Selector.compile text = .ok compiled.selector := by
  rw [SelectorCache.compile] at hcompile
  split at hcompile
  next found hfind =>
    obtain rfl := Except.ok.inj (Prod.mk.inj hcompile).1
    exact h.compile_of_find? hfind
  next =>
    split at hcompile
    · cases (Prod.mk.inj hcompile).1
    next selector hselector =>
      obtain rfl := Except.ok.inj (Prod.mk.inj hcompile).1
      exact hselector

/-- Compiling through the cache gives what `Selector.compile` gives, faults included. -/
theorem map_selector_compile (h : cache.Reached) (text : Text) :
    (cache.compile text).1.map Compiled.selector = Selector.compile text := by
  rw [SelectorCache.compile]
  split
  next found hfind => exact (h.compile_of_find? hfind).symm
  next =>
    split
    next error herror => exact herror.symm
    next selector hselector => exact hselector.symm

end Reached

end SyntaxGraft.SelectorCache
