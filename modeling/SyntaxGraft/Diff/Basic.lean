/-!
# Changes between two lists

A change list tells how one list becomes another: runs of elements that are kept, deleted or
inserted, in order.  `before` and `after` are its two views.

`before_sides` and `after_sides`: a deletion followed by an insertion leads from any list to any
other.
-/

namespace SyntaxGraft.Diff

universe u

/-- What becomes of the elements of a run. -/
inductive Change where
  | keep
  | delete
  | insert
deriving DecidableEq

/-- Neighbouring elements with the same fate. -/
structure Run (α : Type u) where
  change : Change
  items : List α

variable {α : Type u}

/-! ### The two sides -/

/-- The elements that were there before. -/
def before (runs : List (Run α)) : List α :=
  runs.flatMap fun run => if run.change = .insert then [] else run.items

/-- The elements that are there after. -/
def after (runs : List (Run α)) : List α :=
  runs.flatMap fun run => if run.change = .delete then [] else run.items

/-- A run, unless it would be empty. -/
def run (change : Change) (items : List α) : List (Run α) :=
  if items.isEmpty then [] else [⟨change, items⟩]

/-- The change of one list to another that keeps nothing. -/
def sides (old new : List α) : List (Run α) :=
  run .delete old ++ run .insert new

@[simp]
theorem before_append (first second : List (Run α)) :
    before (first ++ second) = before first ++ before second := by
  simp [before]

@[simp]
theorem after_append (first second : List (Run α)) :
    after (first ++ second) = after first ++ after second := by
  simp [after]

@[simp]
theorem before_run_keep (items : List α) : before (run .keep items) = items := by
  cases items <;> simp [before, run]

@[simp]
theorem after_run_keep (items : List α) : after (run .keep items) = items := by
  cases items <;> simp [after, run]

theorem before_sides (old new : List α) : before (sides old new) = old := by
  cases old <;> cases new <;> simp [sides, before, run]

theorem after_sides (old new : List α) : after (sides old new) = new := by
  cases old <;> cases new <;> simp [sides, after, run]

/-! ### What two lists share -/

variable [BEq α]

/-- The elements with which both lists begin. -/
def commonPrefix : List α → List α → List α
  | a :: as, b :: bs => if a == b then a :: commonPrefix as bs else []
  | _, _ => []

/-- The elements with which both lists end. -/
def commonSuffix (old new : List α) : List α :=
  (commonPrefix old.reverse new.reverse).reverse

theorem length_commonPrefix_le (old new : List α) :
    (commonPrefix old new).length ≤ old.length := by
  fun_induction commonPrefix old new <;> simp_all

theorem length_commonSuffix_le (old new : List α) :
    (commonSuffix old new).length ≤ old.length := by
  simpa [commonSuffix] using length_commonPrefix_le old.reverse new.reverse

theorem commonPrefix_append_drop [LawfulBEq α] (old new : List α) :
    commonPrefix old new ++ old.drop (commonPrefix old new).length = old
      ∧ commonPrefix old new ++ new.drop (commonPrefix old new).length = new := by
  fun_induction commonPrefix old new with
  | case1 a as b bs h ih =>
    obtain rfl := eq_of_beq h
    simp [ih]
  | case2 => simp
  | case3 => simp

theorem take_append_commonSuffix [LawfulBEq α] (old new : List α) :
    old.take (old.length - (commonSuffix old new).length) ++ commonSuffix old new = old
      ∧ new.take (new.length - (commonSuffix old new).length) ++ commonSuffix old new = new := by
  obtain ⟨hold, hnew⟩ := commonPrefix_append_drop old.reverse new.reverse
  constructor
  · have h := congrArg List.reverse hold
    simpa [commonSuffix, List.reverse_drop] using h
  · have h := congrArg List.reverse hnew
    simpa [commonSuffix, List.reverse_drop] using h

end SyntaxGraft.Diff
