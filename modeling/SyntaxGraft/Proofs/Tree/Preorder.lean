import SyntaxGraft.Proofs.Tree.Position
import Mathlib.Tactic.Choose
/-!
# Positions in pre-order

Positions (`Occurrence.at?`) are lists of child numbers, and the order of lists is lexical: a
position comes before those below it, and these before what follows.  That order is pre-order, said
without a walk.  The walk over a tree visits every position once and in that order
(`Occurrence.exists_positions`).
-/

namespace SyntaxGraft.Occurrence

/-- The numbers of children are in order. -/
theorem pairwise_zipIdx (occurrences : List Occurrence) :
    occurrences.zipIdx.Pairwise fun child other => child.2 < other.2 := by
  have hsnd : (occurrences.zipIdx.map Prod.snd).Pairwise (· < ·) := by
    rw [List.zipIdx_map_snd]
    exact List.pairwise_lt_range'
  exact List.pairwise_map.mp hsnd

/-- **The walk visits the positions in pre-order**, each of them once. -/
theorem exists_positions (occurrence : Occurrence) :
    ∃ positions : List (List Nat), positions.Pairwise (· < ·) ∧
      positions.map occurrence.at?
        = (occurrence.node.occurrences occurrence.path).map some ∧
      ∀ position found, occurrence.at? position = some found → position ∈ positions := by
  induction occurrence using Occurrence.childrenInduction with
  | step occurrence ih =>
    choose! below hsorted hvisited hcomplete using ih
    -- Below a child stands what stands below it, one number longer.
    have hchild : ∀ child ∈ occurrence.children.zipIdx,
        occurrence.children[child.2]? = some child.1 := fun child h =>
      List.mem_zipIdx_iff_getElem?.mp h
    refine ⟨[] :: occurrence.children.zipIdx.flatMap fun child =>
      (below child.1).map (child.2 :: ·), ?_, ?_, ?_⟩
    · rw [List.pairwise_cons, List.pairwise_flatMap]
      -- The node is before all below it; below one child, and below two of them, numbers decide.
      refine ⟨?_, ?_, ?_⟩
      · intro position hposition
        obtain ⟨child, -, hmem⟩ := List.mem_flatMap.mp hposition
        obtain ⟨rest, -, rfl⟩ := List.mem_map.mp hmem
        exact List.nil_lt_cons _ _
      · intro child h
        refine List.pairwise_map.mpr ((hsorted child.1 (List.fst_mem_of_mem_zipIdx h)).imp ?_)
        intro position other hlt
        exact List.cons_lt_cons_iff.mpr (Or.inr ⟨rfl, hlt⟩)
      · refine (pairwise_zipIdx occurrence.children).imp ?_
        intro child other hlt position hposition later hlater
        obtain ⟨rest, -, rfl⟩ := List.mem_map.mp hposition
        obtain ⟨rest', -, rfl⟩ := List.mem_map.mp hlater
        exact List.cons_lt_cons_iff.mpr (Or.inl hlt)
    · rw [List.map_cons, occurrences_eq, List.map_cons, descendants_eq, List.map_flatMap,
        List.map_flatMap]
      refine congrArg _ ?_
      -- The numbers are needed for the positions only, and then dropped.
      calc occurrence.children.zipIdx.flatMap
            (fun child => ((below child.1).map (child.2 :: ·)).map occurrence.at?)
          = occurrence.children.zipIdx.flatMap
              (fun child => (child.1.node.occurrences child.1.path).map some) := by
            apply List.flatMap_congr
            intro child h
            rw [← hvisited child.1 (List.fst_mem_of_mem_zipIdx h), List.map_map]
            apply List.map_congr_left
            intro position _
            rw [Function.comp_apply, at?, hchild child h]
            rfl
        _ = (occurrence.children.zipIdx.map Prod.fst).flatMap
              (fun child => (child.node.occurrences child.path).map some) := by
            rw [List.flatMap_map]
        _ = occurrence.children.flatMap
              (fun child => (child.node.occurrences child.path).map some) := by
            rw [List.zipIdx_map_fst]
    · intro position found hfound
      cases position with
      | nil => exact List.mem_cons_self
      | cons number rest =>
        obtain ⟨child, hnumber, hrest⟩ := at?_cons_eq_some_iff.mp hfound
        have hmem := hcomplete child (List.mem_of_getElem? hnumber) rest found hrest
        exact List.mem_cons_of_mem _ (List.mem_flatMap.mpr
          ⟨(child, number), List.mem_zipIdx_iff_getElem?.mpr hnumber, List.mem_map_of_mem hmem⟩)

end SyntaxGraft.Occurrence
