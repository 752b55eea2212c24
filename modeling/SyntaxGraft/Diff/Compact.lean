import SyntaxGraft.Diff.Basic
/-!
# Fewer and longer runs

A change list is tidied up in two passes, first over its deletions, then over its insertions.  Each
deletion or insertion is moved as far up as it can go, and then as far down.  On its way an
insertion changes places with kept elements where that makes no difference, either changes places
with a run of the other kind, and runs of the same kind become one.

`weight_up?`: every move up leaves less above, so that there is an end to them.
-/

namespace SyntaxGraft.Diff

universe u

variable {α : Type u}

/-- The run with its elements in the other order. -/
def Run.flip (run : Run α) : Run α :=
  ⟨run.change, run.items.reverse⟩

/-- A change list seen from one of its runs.  The runs above it are listed from the nearest on. -/
structure Focus (α : Type u) where
  above : List (Run α)
  here : Run α
  below : List (Run α)

namespace Focus

/-- The change list upside down. -/
def flip (focus : Focus α) : Focus α :=
  ⟨focus.below.map Run.flip, focus.here.flip, focus.above.map Run.flip⟩

end Focus

/-- Kept elements above a list of runs. -/
def keepAbove (items : List α) : List (Run α) → List (Run α)
  | ⟨.keep, more⟩ :: rest => ⟨.keep, items ++ more⟩ :: rest
  | rest => ⟨.keep, items⟩ :: rest

/-- The number of runs and elements. -/
def weight : List (Run α) → Nat
  | [] => 0
  | run :: rest => run.items.length + 1 + weight rest

theorem weight_run_append (items : List α) (rest : List (Run α)) :
    weight (run .keep items ++ rest) ≤ items.length + 1 + weight rest := by
  cases items <;> simp [run, weight]

variable [BEq α]

/-! ### Moves -/

/-- The kept elements just above a run that it can change places with: those that an insertion ends
with too. -/
def passable (kept : List α) (here : Run α) : List α :=
  if here.change = .insert then commonSuffix kept here.items else []

namespace Focus

/-- One move up, if there is one. -/
def up? (focus : Focus α) : Option (Focus α) :=
  let here := focus.here
  match focus.above with
  | [] => none
  | previous :: above =>
    if previous.change = .keep then
      let common := passable previous.items here
      if previous.items.isEmpty then some { focus with above }
      else if common.isEmpty then none
      else
        some {
          above := run .keep (previous.items.take (previous.items.length - common.length)) ++ above
          here := ⟨here.change, common ++ here.items.take (here.items.length - common.length)⟩
          below := keepAbove common focus.below }
    else if previous.change = here.change then
      some { focus with above, here := ⟨here.change, previous.items ++ here.items⟩ }
    else some { focus with above, below := previous :: focus.below }

/-- Every move up leaves less above. -/
theorem weight_up? {focus next : Focus α} (h : focus.up? = some next) :
    weight next.above < weight focus.above := by
  obtain ⟨above, here, below⟩ := focus
  cases above with
  | nil => simp [up?] at h
  | cons previous above =>
    simp only [up?] at h
    split at h
    · split at h
      · cases h
        simp [weight]
      · split at h
        · cases h
        · next hcommon =>
          cases h
          have hle : (passable previous.items here).length ≤ previous.items.length := by
            unfold passable
            split
            · exact length_commonSuffix_le _ _
            · simp
          have hpos : 0 < (passable previous.items here).length := by
            simpa [List.length_pos_iff] using hcommon
          have hrun := weight_run_append
            (previous.items.take
              (previous.items.length - (passable previous.items here).length)) above
          simp only [List.length_take, weight] at hrun ⊢
          omega
    · split at h <;> cases h <;> simp [weight]

/-- The run moved as far up as it goes. -/
def toTop (focus : Focus α) : Focus α :=
  match h : focus.up? with
  | none => focus
  | some next =>
    have := weight_up? h
    toTop next
termination_by weight focus.above

/-- The run moved as far down as it goes. -/
def toBottom (focus : Focus α) : Focus α :=
  focus.flip.toTop.flip

end Focus

/-! ### Passes -/

/-- The runs of one kind moved up and down, from the top of the list to its end; `above` are the
runs that are done, from the nearest on. -/
def settle (change : Change) : Nat → List (Run α) → List (Run α) → List (Run α)
  | 0, above, below => above.reverse ++ below
  | _, above, [] => above.reverse
  | fuel + 1, above, here :: below =>
    if here.change = change then
      let focus := Focus.toBottom (Focus.toTop ⟨above, here, below⟩)
      settle change fuel (focus.here :: focus.above) focus.below
    else settle change fuel (here :: above) below

/-- The change list with its deletions, then its insertions moved.  No pass takes more steps than
there are pairs of runs and elements. -/
def compact (runs : List (Run α)) : List (Run α) :=
  let bound := (weight runs + 1) * (weight runs + 1)
  settle .insert bound [] (settle .delete bound [] runs)

end SyntaxGraft.Diff
