import SyntaxGraft.Proofs.Graft.Walk
import SyntaxGraft.Proofs.Parse.Conversion
import Mathlib.Logic.Relation
/-!
# Identities over whole sessions

A session is a parsed tree and any number of passes over it (`Tree.Pass`).  One pass keeps some of
the identities and adds the consecutive block of those it gave out (`Tree.ids_graft`); so the
identities of a tree stay distinct and below the first unused one (`Tree.Numbered.graft`), and what
was once removed does not come back (`Tree.mem_ids_of_session`).

Nothing is asked of the fragments: a pass renumbers what it puts in.
-/

namespace SyntaxGraft

namespace Graft

/-! ### The identities of one pass -/

/-- What takes the place of a node has the block of identities given out for it, whatever its
`Wrapping`. -/
theorem ids_place (plan : Plan) (slot : Slot) (target : Node) (progress : Progress) :
    (place plan slot target progress).1.ids.Perm
      (List.Ico progress.nextId (place plan slot target progress).2.nextId) := by
  obtain ⟨first, copy, hfirst, hlast, -, hids, hnode⟩ := place_inserted plan slot target progress
  rw [place_snd] at hlast ⊢
  -- The block is no longer than copy and wrapper need, so the copy starts at its beginning.
  have hlast : first + plan.representative.size + (slot.wrapping plan.representative).count
      ≤ progress.nextId + plan.representative.size
        + (slot.wrapping plan.representative).count := hlast
  obtain rfl : first = progress.nextId := by omega
  have hcopy : copy.ids
      = List.Ico progress.nextId (progress.nextId + plan.representative.size) := by
    rw [hids, List.Ico, Nat.add_sub_cancel_left]
  -- The copy has the first part of the block, and what is put around it the rest.
  have hblock := (slot.wrapping plan.representative).ids_around
    (progress.nextId + plan.representative.size) copy
  rw [hcopy, List.Ico.append_consecutive (Nat.le_add_right _ _) (Nat.le_add_right _ _)] at hblock
  rw [hnode, Node.ids_withAnchor]
  exact hblock

theorem ids_children (occurrence : Occurrence) :
    occurrence.node.ids
      = occurrence.node.id :: occurrence.children.flatMap fun child => child.node.ids := by
  rw [Node.ids_eq, ← Occurrence.map_node_children, List.flatMap_map]

/-- `visit` keeps some identities and adds those it gave out, each once.  The kept ones are named by
an existential: which they are does not matter for what is distinct or new. -/
theorem ids_visit (plan : Plan) (occurrence : Occurrence) (progress : Progress) :
    progress.nextId ≤ (visit plan occurrence.slot occurrence.node progress).2.nextId ∧
      ∃ kept, kept.Sublist occurrence.node.ids ∧
        (visit plan occurrence.slot occurrence.node progress).1.ids.Perm
          (kept ++ List.Ico progress.nextId
            (visit plan occurrence.slot occurrence.node progress).2.nextId) := by
  apply visitInduction plan
    (P := fun occurrence progress node after => progress.nextId ≤ after.nextId ∧
      ∃ kept, kept.Sublist occurrence.node.ids ∧
        node.ids.Perm (kept ++ List.Ico progress.nextId after.nextId))
    (Q := fun occurrences progress nodes after => progress.nextId ≤ after.nextId ∧
      ∃ kept, kept.Sublist (occurrences.flatMap fun occurrence => occurrence.node.ids) ∧
        (nodes.flatMap Node.ids).Perm (kept ++ List.Ico progress.nextId after.nextId))
  · -- a match is replaced: nothing is kept
    intro occurrence progress _
    refine ⟨?_, [], List.nil_sublist _, ids_place plan _ _ progress⟩
    rw [place_snd]
    show progress.nextId ≤ progress.nextId + _ + _
    omega
  · -- a node that stays has its own identity and what its children keep
    rintro occurrence progress node after _ hkept ⟨hle, kept, hsub, hperm⟩
    have hid : node.id = occurrence.node.id := congrArg Header.id hkept.header
    refine ⟨hle, occurrence.node.id :: kept, ?_, ?_⟩
    · rw [ids_children]
      exact hsub.cons_cons _
    · rw [Node.ids_eq, hid]
      exact hperm.cons _
  · intro progress
    exact ⟨Nat.le_refl _, [], List.nil_sublist _, by simp⟩
  · rintro occurrence rest progress node between nodes after ⟨hle, kept, hsub, hperm⟩
      ⟨hleRest, keptRest, hsubRest, hpermRest⟩
    refine ⟨Nat.le_trans hle hleRest, kept ++ keptRest, hsub.append hsubRest, ?_⟩
    -- The two blocks join at `between`; what was kept has to move in front of both.
    rw [List.flatMap_cons, ← List.Ico.append_consecutive hle hleRest, List.append_assoc]
    refine (hperm.append hpermRest).trans ?_
    rw [List.append_assoc]
    exact (List.perm_append_comm_assoc _ _ _).append_left _

end Graft

/-! ### Sessions -/

namespace Tree

/-- The second tree comes of the first by one pass. -/
def Pass (before after : Tree) : Prop :=
  ∃ selector fragment, after = (before.graft selector fragment).tree

/-- The second tree comes of the first by some passes, `Pass` after `Pass`. -/
def Session : Tree → Tree → Prop :=
  Relation.ReflTransGen Pass

/-- All identities are distinct and below `nextId`: the invariant of a session. -/
structure Numbered (tree : Tree) : Prop where
  distinct : tree.root.ids.Nodup
  given : ∀ id ∈ tree.root.ids, id < tree.nextId

theorem numbered_of_parse {grammar : Grammar} {text : Text} {tree : Tree}
    (h : parse grammar text = .ok tree) : tree.Numbered where
  distinct := by
    obtain ⟨chosen, hperm, hsub⟩ := ids_of_parse h
    exact hperm.nodup_iff.mp ((List.Ico.nodup _ _).sublist hsub)
  given id hid := (List.Ico.mem.mp ((ids_of_parse h).subset hid)).2

/-- **One pass** (`Tree.graft`) keeps some identities and adds the block it gave out. -/
theorem ids_graft (tree : Tree) (selector : Selector) (fragment : Fragment) :
    tree.nextId ≤ (tree.graft selector fragment).tree.nextId ∧
      ∃ kept, kept.Sublist tree.root.ids ∧ (tree.graft selector fragment).tree.root.ids.Perm
        (kept ++ List.Ico tree.nextId (tree.graft selector fragment).tree.nextId) :=
  Graft.ids_visit (Graft.planOf tree selector fragment) ⟨tree.root, []⟩ ⟨tree.nextId, 0⟩

/-- One pass keeps `Numbered`: what it adds lies above all that was there. -/
theorem Numbered.graft {tree : Tree} (h : tree.Numbered) (selector : Selector)
    (fragment : Fragment) : (tree.graft selector fragment).tree.Numbered := by
  obtain ⟨hle, kept, hsub, hperm⟩ := tree.ids_graft selector fragment
  constructor
  · rw [hperm.nodup_iff, List.nodup_append]
    refine ⟨h.distinct.sublist hsub, List.Ico.nodup _ _, ?_⟩
    intro id hkept other hother heq
    have hgiven := h.given id (hsub.subset hkept)
    have hfresh := (List.Ico.mem.mp hother).1
    omega
  · intro id hid
    rcases List.mem_append.mp (hperm.mem_iff.mp hid) with hkept | hfresh
    · exact Nat.lt_of_lt_of_le (h.given id (hsub.subset hkept)) hle
    · exact (List.Ico.mem.mp hfresh).2

theorem Numbered.session {start tree : Tree} (h : start.Numbered) (hsession : start.Session tree) :
    tree.Numbered := by
  induction hsession with
  | refl => exact h
  | tail _ hpass ih =>
    obtain ⟨selector, fragment, rfl⟩ := hpass
    exact ih.graft selector fragment

/-- What a later tree has below `nextId` of an earlier one, it has kept from there.  This does not
follow from `Numbered`, which says nothing of where an identity comes from. -/
theorem mem_ids_of_session {tree later : Tree} (hsession : tree.Session later) :
    tree.nextId ≤ later.nextId ∧
      ∀ id ∈ later.root.ids, id ∈ tree.root.ids ∨ tree.nextId ≤ id := by
  induction hsession with
  | refl => exact ⟨Nat.le_refl _, fun id hid => Or.inl hid⟩
  | @tail between later _ hpass ih =>
    obtain ⟨hnext, hids⟩ := ih
    obtain ⟨selector, fragment, rfl⟩ := hpass
    obtain ⟨hle, kept, hsub, hperm⟩ := between.ids_graft selector fragment
    refine ⟨Nat.le_trans hnext hle, ?_⟩
    intro id hid
    rcases List.mem_append.mp (hperm.mem_iff.mp hid) with hkept | hfresh
    · exact hids id (hsub.subset hkept)
    · exact Or.inr (Nat.le_trans hnext (List.Ico.mem.mp hfresh).1)

/-- As long as `nextId` is at most `2 ^ 32`, identities may be kept in 32 bits. -/
theorem Numbered.nodup_map_ofNat {tree : Tree} (h : tree.Numbered) (hbound : tree.nextId ≤ 2 ^ 32) :
    (tree.root.ids.map UInt32.ofNat).Nodup := by
  refine List.Nodup.map_on ?_ h.distinct
  intro id hid other hother heq
  have hlt : id < UInt32.size := Nat.lt_of_lt_of_le (h.given id hid) hbound
  have hlt' : other < UInt32.size := Nat.lt_of_lt_of_le (h.given other hother) hbound
  have heq := congrArg UInt32.toNat heq
  rwa [UInt32.toNat_ofNat_of_lt' hlt, UInt32.toNat_ofNat_of_lt' hlt'] at heq

/-- **Identities over a session.**  In every tree of a session all identities are distinct and given
out, also in 32 bits as long as these suffice.  The next pass gives out a block of consecutive
identities, and each of them is carried by exactly one node of the new tree; all others it has from
before, and one that is gone is gone for the rest of the session. -/
theorem identities_of_session {grammar : Grammar} {text : Text} {start tree : Tree}
    (hparse : parse grammar text = .ok start) (hsession : start.Session tree) :
    tree.root.ids.Nodup ∧
    (∀ id ∈ tree.root.ids, id < tree.nextId) ∧
    (tree.nextId ≤ 2 ^ 32 → (tree.root.ids.map UInt32.ofNat).Nodup) ∧
    ∀ selector fragment,
      let next := (tree.graft selector fragment).tree
      tree.nextId ≤ next.nextId ∧
      (∀ id ∈ next.root.ids, id ∈ tree.root.ids ∨ tree.nextId ≤ id ∧ id < next.nextId) ∧
      (∀ id, tree.nextId ≤ id → id < next.nextId → next.root.ids.count id = 1) ∧
      ∀ id ∈ tree.root.ids, id ∉ next.root.ids →
        ∀ later, next.Session later → id ∉ later.root.ids := by
  have hnumbered := (numbered_of_parse hparse).session hsession
  refine ⟨hnumbered.distinct, hnumbered.given, hnumbered.nodup_map_ofNat, ?_⟩
  intro selector fragment next
  obtain ⟨hle, kept, hsub, hperm⟩ := tree.ids_graft selector fragment
  have hnext : next.Numbered := hnumbered.graft selector fragment
  refine ⟨hle, ?_, ?_, ?_⟩
  · intro id hid
    rcases List.mem_append.mp (hperm.mem_iff.mp hid) with hkept | hfresh
    · exact Or.inl (hsub.subset hkept)
    · exact Or.inr (List.Ico.mem.mp hfresh)
  · -- an identity of the block is carried once: it is in the new tree, whose identities differ
    intro id hlow hhigh
    apply List.count_eq_one_of_mem hnext.distinct
    exact hperm.mem_iff.mpr (List.mem_append_right _ (List.Ico.mem.mpr ⟨hlow, hhigh⟩))
  · -- a removed identity is below what later passes give out, and none of what they keep
    intro id hid hgone later hlater hback
    have hgiven := Nat.lt_of_lt_of_le (hnumbered.given id hid) hle
    rcases (mem_ids_of_session hlater).2 id hback with hin | hfresh
    · exact hgone hin
    · exact absurd hgiven (Nat.not_lt.mpr hfresh)

/-- A tree grafted into itself: the copy of the root has identities of its own. -/
theorem identities_of_self_graft :
    let start := ofParseTree Sample.product Sample.productTree
    let calls : Selector := ⟨Sample.calls, some [.compound (.mk (some "CallExpression") [] [])]⟩
    let tree := (start.graft calls (Fragment.ofNode start.root)).tree
    parse Sample.grammar Sample.product = .ok start ∧ start.Session tree ∧
      tree.root.ids.Nodup ∧ ∀ id ∈ tree.root.ids, id < tree.nextId := by
  intro start calls tree
  have hparse : parse Sample.grammar Sample.product = .ok start := rfl
  have hsession : start.Session tree := .single ⟨calls, Fragment.ofNode start.root, rfl⟩
  obtain ⟨hdistinct, hgiven, -⟩ := identities_of_session hparse hsession
  exact ⟨hparse, hsession, hdistinct, hgiven⟩

end Tree

end SyntaxGraft
