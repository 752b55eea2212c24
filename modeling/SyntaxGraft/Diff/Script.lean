import SyntaxGraft.Diff.Middle
/-!
# The shortest change of one list to another

What both lists begin and end with is kept.  What remains is divided at a point that a shortest
change passes through, and each half is treated alike.

`before_script` and `after_script`: the change leads from the one list to the other.
-/

namespace SyntaxGraft.Diff

universe u

variable {α : Type u} [BEq α]

/-- Two lists with what they share at their ends set apart. -/
structure Trimmed (α : Type u) where
  /-- What both begin with. -/
  first : List α
  oldMiddle : List α
  newMiddle : List α
  /-- What both end with. -/
  last : List α

/-- Two lists with what they share at their ends set apart. -/
def trim (old new : List α) : Trimmed α :=
  let first := commonPrefix old new
  let oldRest := old.drop first.length
  let newRest := new.drop first.length
  let last := commonSuffix oldRest newRest
  ⟨first, oldRest.take (oldRest.length - last.length), newRest.take (newRest.length - last.length),
    last⟩

/-- The change of one list to another, divided `fuel` times at most. -/
def scriptWith : Nat → List α → List α → List (Run α)
  | 0, old, new => sides old new
  | fuel + 1, old, new =>
    let trimmed := trim old new
    let inner :=
      if trimmed.oldMiddle.isEmpty || trimmed.newMiddle.isEmpty then
        sides trimmed.oldMiddle trimmed.newMiddle
      else
        match middle? trimmed.oldMiddle trimmed.newMiddle with
        | none => sides trimmed.oldMiddle trimmed.newMiddle
        | some (x, y) =>
          scriptWith fuel (trimmed.oldMiddle.take x) (trimmed.newMiddle.take y)
            ++ scriptWith fuel (trimmed.oldMiddle.drop x) (trimmed.newMiddle.drop y)
    run .keep trimmed.first ++ inner ++ run .keep trimmed.last

/-- The change of one list to another. -/
def script (old new : List α) : List (Run α) :=
  scriptWith (old.length + new.length) old new

/-! ### Both sides -/

/-- Trimming loses nothing. -/
theorem append_trim [LawfulBEq α] (old new : List α) :
    (trim old new).first ++ (trim old new).oldMiddle ++ (trim old new).last = old
      ∧ (trim old new).first ++ (trim old new).newMiddle ++ (trim old new).last = new := by
  obtain ⟨hold, hnew⟩ := commonPrefix_append_drop old new
  obtain ⟨hold', hnew'⟩ := take_append_commonSuffix
    (old.drop (commonPrefix old new).length) (new.drop (commonPrefix old new).length)
  constructor
  · rw [trim, List.append_assoc, hold', hold]
  · rw [trim, List.append_assoc, hnew', hnew]

theorem sides_scriptWith [LawfulBEq α] (fuel : Nat) (old new : List α) :
    before (scriptWith fuel old new) = old ∧ after (scriptWith fuel old new) = new := by
  induction fuel generalizing old new with
  | zero => exact ⟨before_sides old new, after_sides old new⟩
  | succ fuel ih =>
    obtain ⟨hold, hnew⟩ := append_trim old new
    unfold scriptWith
    generalize trim old new = trimmed at hold hnew
    subst hold hnew
    simp only [before_append, after_append, before_run_keep, after_run_keep]
    split
    · simp [before_sides, after_sides]
    · split
      · simp [before_sides, after_sides]
      · simp [ih]

/-- The kept and deleted elements of the change are the old list. -/
theorem before_script [LawfulBEq α] (old new : List α) : before (script old new) = old :=
  (sides_scriptWith _ old new).1

/-- The kept and inserted elements of the change are the new list. -/
theorem after_script [LawfulBEq α] (old new : List α) : after (script old new) = new :=
  (sides_scriptWith _ old new).2

end SyntaxGraft.Diff
