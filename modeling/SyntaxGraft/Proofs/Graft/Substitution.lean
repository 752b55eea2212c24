import SyntaxGraft.Proofs.Graft.Walk
import SyntaxGraft.Proofs.Parse.Conversion
/-!
# A pass is simultaneous substitution

The matches of a selector are settled before a pass, as identities.  Where all identities differ,
what the pass replaces is exactly the topmost matches (`Graft.ready_of_distinct`), and it replaces
them all at once:

* `Graft.replaced_visit` counts the replacements,
* `Graft.size_visit` balances the numbers of nodes,
* `Graft.substituted_visit` compares the trees before and after position by position.
-/

namespace SyntaxGraft

/-! ### Matches -/

namespace Selector

/-- The selector matches at the occurrence; one without a list (`none`) matches nowhere. -/
def holds (selector : Selector) (occurrence : Occurrence) : Bool :=
  match selector.list with
  | some list => SelectorList.holds list occurrence
  | none => false

/-- The topmost matches of a selector from a root on, in pre-order. -/
def topmost (selector : Selector) (root : Node) : List Occurrence :=
  Occurrence.topmost selector.holds ⟨root, []⟩

theorem evaluateFrom_eq (selector : Selector) (root : Node) :
    selector.evaluateFrom root
      = ((root.occurrences []).filter selector.holds).map Occurrence.node := by
  obtain ⟨text, list⟩ := selector
  cases list with
  | none =>
    have hnone : (root.occurrences []).filter (holds ⟨text, none⟩) = [] :=
      List.filter_eq_nil_iff.mpr fun _ _ => by simp [holds]
    rw [hnone]
    rfl
  | some list => rfl

/-- Every one of the `topmost` matches is a match. -/
theorem length_topmost_le (selector : Selector) (root : Node) :
    (selector.topmost root).length ≤ ((root.occurrences []).filter selector.holds).length := by
  apply List.Sublist.length_le
  apply List.monotone_filter_right
  intro occurrence htop
  exact (Occurrence.isTopmost_iff.mp htop).1

end Selector

namespace Occurrence

/-- Where something matches, something `isTopmost`: the first match on the way down to it. -/
theorem exists_isTopmost {holds : Occurrence → Bool} {occurrence found : Occurrence}
    (clear : ∀ above ∈ occurrence.ancestors, holds above = false)
    (hfound : found ∈ occurrence.node.occurrences occurrence.path) (h : holds found = true) :
    occurrence.topmost holds ≠ [] := by
  induction occurrence using Occurrence.childrenInduction with
  | step occurrence ih =>
    cases hself : holds occurrence with
    | true => simp [topmost_of_holds clear hself]
    | false =>
      rw [occurrences_eq, descendants_eq] at hfound
      rcases List.mem_cons.mp hfound with rfl | hbelow
      · rw [hself] at h
        cases h
      · obtain ⟨child, hchild, hfound⟩ := List.mem_flatMap.mp hbelow
        have hne := ih child hchild (clear_of_mem_children hchild clear hself) hfound
        rw [topmost_of_not_holds hself, Ne, List.flatMap_eq_nil_iff]
        exact fun hall => hne (hall child hchild)

end Occurrence

namespace Graft

/-- Where all identities differ, the identities that `planOf` settles are those of the matches.  A
pass looks at identities alone, and would replace a second node of the same one too. -/
theorem ready_of_distinct {tree : Tree} (distinct : tree.root.ids.Nodup) (selector : Selector)
    (fragment : Fragment) :
    Ready (planOf tree selector fragment) selector.holds ⟨tree.root, []⟩ where
  clear above habove := by cases habove
  agree found hfound := by
    rw [planOf, Selector.evaluate, Selector.evaluateFrom_eq, List.map_map, Bool.eq_iff_iff,
      List.contains_iff_mem, List.mem_map]
    constructor
    · rintro ⟨other, hother, hid⟩
      obtain ⟨hmem, hholds⟩ := List.mem_filter.mp hother
      rw [← Node.eq_of_id_eq distinct hmem hfound hid]
      exact hholds
    · intro hholds
      exact ⟨found, List.mem_filter.mpr ⟨hfound, hholds⟩, rfl⟩

/-! ### Counts -/

section Counts

variable {plan : Plan} {holds : Occurrence → Bool} {occurrence : Occurrence}

/-- The pass replaces once for each of the `topmost` matches. -/
theorem replaced_visit (ready : Ready plan holds occurrence) (progress : Progress) :
    (visit plan occurrence.slot occurrence.node progress).2.replaced
      = progress.replaced + (occurrence.topmost holds).length := by
  apply matchInduction plan holds
    (P := fun occurrence progress _ after =>
      after.replaced = progress.replaced + (occurrence.topmost holds).length)
    (Q := fun occurrences progress _ after => after.replaced
      = progress.replaced + (occurrences.flatMap (Occurrence.topmost holds)).length) _ _ _ _ ready
  · intro occurrence progress clear hholds
    rw [place_snd, Occurrence.topmost_of_holds clear hholds]
    rfl
  · intro occurrence progress node after _ hholds _ heach
    rw [Occurrence.topmost_of_not_holds hholds]
    exact heach
  · intro progress
    rfl
  · intro occurrence rest progress node between nodes after hone hrest
    rw [hrest, hone, List.flatMap_cons, List.length_append, Nat.add_assoc]

theorem Inserted.size_eq {representative target node : Node} {slot : Slot} {low high : Nat}
    (h : Inserted representative target slot low high node) :
    node.size = representative.size + (slot.wrapping representative).count := by
  obtain ⟨first, copy, -, -, -, hids, rfl⟩ := h
  have hcopy : copy.size = representative.size := by
    rw [← Node.length_ids, hids, List.length_range']
  rw [Node.size_withAnchor, Wrapping.size_around, hcopy]

/-- The number of nodes put around the copies at some occurrences. -/
def wrappers (representative : Node) (occurrences : List Occurrence) : Nat :=
  (occurrences.map fun occurrence => (occurrence.slot.wrapping representative).count).sum

/-- The number of nodes at and below some occurrences (`Node.size`). -/
def weight (occurrences : List Occurrence) : Nat :=
  (occurrences.map fun occurrence => occurrence.node.size).sum

theorem wrappers_append (representative : Node) (occurrences others : List Occurrence) :
    wrappers representative (occurrences ++ others)
      = wrappers representative occurrences + wrappers representative others := by
  rw [wrappers, List.map_append, List.sum_append]
  rfl

theorem weight_append (occurrences others : List Occurrence) :
    weight (occurrences ++ others) = weight occurrences + weight others := by
  rw [weight, List.map_append, List.sum_append]
  rfl

theorem weight_children (occurrence : Occurrence) :
    occurrence.node.size = 1 + weight occurrence.children := by
  rw [Node.size_eq, ← Occurrence.map_node_children, List.map_map]
  rfl

/-- What the `topmost` matches weighed goes, and as many wrapped copies come.  Both sides are sums,
so that no number is taken from a smaller one. -/
theorem size_visit (ready : Ready plan holds occurrence) (progress : Progress) :
    (visit plan occurrence.slot occurrence.node progress).1.size + weight (occurrence.topmost holds)
      = occurrence.node.size + (occurrence.topmost holds).length * plan.representative.size
        + wrappers plan.representative (occurrence.topmost holds) := by
  apply matchInduction plan holds
    (P := fun occurrence _ node _ => node.size + weight (occurrence.topmost holds)
      = occurrence.node.size + (occurrence.topmost holds).length * plan.representative.size
        + wrappers plan.representative (occurrence.topmost holds))
    (Q := fun occurrences _ nodes _ =>
      (nodes.map Node.size).sum + weight (occurrences.flatMap (Occurrence.topmost holds))
        = weight occurrences + (occurrences.flatMap (Occurrence.topmost holds)).length
            * plan.representative.size
          + wrappers plan.representative (occurrences.flatMap (Occurrence.topmost holds)))
    _ _ _ _ ready
  · -- a match weighs what it is, and a copy and its wrapper come
    intro occurrence progress clear hholds
    rw [(place_inserted plan occurrence.slot occurrence.node progress).size_eq,
      Occurrence.topmost_of_holds clear hholds]
    simp only [weight, wrappers, List.map_cons, List.map_nil, List.sum_cons, List.sum_nil,
      List.length_singleton]
    omega
  · -- a node that stays counts on both sides
    intro occurrence progress node after _ hholds _ heach
    rw [Occurrence.topmost_of_not_holds hholds, Node.size_eq, weight_children]
    omega
  · intro progress
    simp [weight, wrappers]
  · intro occurrence rest progress node between nodes after hone hrest
    rw [List.flatMap_cons, weight_append, wrappers_append, List.length_append, Nat.add_mul,
      List.map_cons, List.sum_cons]
    have hweight : weight (occurrence :: rest) = occurrence.node.size + weight rest := rfl
    rw [hweight]
    omega

end Counts

/-! ### Position by position -/

/-- The tree after is the tree before with a copy at each topmost occurrence of a property, and
nothing else is different. -/
structure Substituted (holds : Occurrence → Bool) (representative : Node) (low high : Nat)
    (before after : Occurrence) : Prop where
  /-- What neither has the property nor is below such a node stands where it stood, with everything
  but the nodes below it as it was. -/
  kept : ∀ position found, before.at? position = some found → found.isSpared holds = true →
    ∃ same, after.at? position = some same ∧ same.node.outline = found.node.outline ∧
      same.trail = found.trail
  /-- At each topmost occurrence stands a copy, as its slot demands. -/
  replaced : ∀ position found, before.at? position = some found → found.isTopmost holds = true →
    ∃ copy, after.at? position = some copy ∧
      Inserted representative found.node found.slot low high copy.node ∧ copy.trail = found.trail
  /-- There is nothing else. -/
  covered : ∀ position found, after.at? position = some found →
    (∃ same, before.at? position = some same ∧ same.isSpared holds = true) ∨
      ∃ above below target, position = above ++ below ∧ before.at? above = some target ∧
        target.isTopmost holds = true

section Positions

variable {holds : Occurrence → Bool} {representative : Node} {low high : Nat}
  {before after : Occurrence}

theorem Substituted.mono {low' high' : Nat}
    (h : Substituted holds representative low high before after) (hlow : low' ≤ low)
    (hhigh : high ≤ high') : Substituted holds representative low' high' before after where
  kept := h.kept
  replaced position found hfound htop := by
    obtain ⟨copy, hcopy, hinserted, htrail⟩ := h.replaced position found hfound htop
    exact ⟨copy, hcopy, hinserted.mono hlow hhigh, htrail⟩
  covered := h.covered

/-- A topmost occurrence gives way to a copy, with all that is below it: the `matched` case of
`substituted_visit`. -/
theorem substituted_of_holds (clear : ∀ above ∈ before.ancestors, holds above = false)
    (hholds : holds before = true) (htrail : after.trail = before.trail)
    (hinserted : Inserted representative before.node before.slot low high after.node) :
    Substituted holds representative low high before after where
  kept position found hfound hspared := by
    rw [Occurrence.isSpared_iff] at hspared
    -- Neither the occurrence itself nor anything below it is spared.
    cases position with
    | nil =>
      rw [← Option.some.inj hfound, hholds] at hspared
      cases hspared.1
    | cons number rest =>
      have hclear := hspared.2 before (Occurrence.mem_ancestors_of_at?_cons hfound)
      rw [hholds] at hclear
      cases hclear
  replaced position found hfound htop := by
    rw [Occurrence.isTopmost_iff] at htop
    -- Below the occurrence nothing is topmost.
    cases position with
    | nil =>
      obtain rfl := Option.some.inj hfound
      exact ⟨after, rfl, hinserted, htrail⟩
    | cons number rest =>
      have hclear := htop.2 before (Occurrence.mem_ancestors_of_at?_cons hfound)
      rw [hholds] at hclear
      cases hclear
  covered position _ _ :=
    Or.inr ⟨[], position, before, rfl, rfl, Occurrence.isTopmost_iff.mpr ⟨hholds, clear⟩⟩

/-- Around an occurrence that stays, the substitution is that in its children: the `kept` case of
`substituted_visit`.  The children are paired by number, since both have the same outline. -/
theorem substituted_of_children (clear : ∀ above ∈ before.ancestors, holds above = false)
    (hholds : holds before = false) (houtline : after.node.outline = before.node.outline)
    (htrail : after.trail = before.trail)
    (hchildren : ∀ (number : Nat) child twin, before.children[number]? = some child →
      after.children[number]? = some twin → twin.trail = child.trail →
      Substituted holds representative low high child twin) :
    Substituted holds representative low high before after where
  kept position found hfound hspared := by
    cases position with
    | nil =>
      obtain rfl := Option.some.inj hfound
      exact ⟨after, rfl, houtline, htrail⟩
    | cons number rest =>
      obtain ⟨child, hchild, hfound⟩ := Occurrence.at?_cons_eq_some_iff.mp hfound
      obtain ⟨twin, htwin, hsame⟩ := Occurrence.exists_child_of_outline_eq houtline htrail hchild
      obtain ⟨same, hat, hrest⟩ :=
        (hchildren number child twin hchild htwin hsame).kept rest found hfound hspared
      exact ⟨same, Occurrence.at?_cons_eq_some_iff.mpr ⟨twin, htwin, hat⟩, hrest⟩
  replaced position found hfound htop := by
    cases position with
    | nil =>
      rw [← Option.some.inj hfound, Occurrence.isTopmost_iff, hholds] at htop
      cases htop.1
    | cons number rest =>
      obtain ⟨child, hchild, hfound⟩ := Occurrence.at?_cons_eq_some_iff.mp hfound
      obtain ⟨twin, htwin, hsame⟩ := Occurrence.exists_child_of_outline_eq houtline htrail hchild
      obtain ⟨copy, hat, hrest⟩ :=
        (hchildren number child twin hchild htwin hsame).replaced rest found hfound htop
      exact ⟨copy, Occurrence.at?_cons_eq_some_iff.mpr ⟨twin, htwin, hat⟩, hrest⟩
  covered position found hfound := by
    cases position with
    | nil => exact Or.inl ⟨before, rfl, Occurrence.isSpared_iff.mpr ⟨hholds, clear⟩⟩
    | cons number rest =>
      obtain ⟨twin, htwin, hfound⟩ := Occurrence.at?_cons_eq_some_iff.mp hfound
      obtain ⟨child, hchild, hsame⟩ :=
        Occurrence.exists_child_of_outline_eq houtline.symm htrail.symm htwin
      rcases (hchildren number child twin hchild htwin hsame.symm).covered rest found hfound with
        ⟨same, hat, hspared⟩ | ⟨above, below, target, rfl, hat, htop⟩
      · exact Or.inl ⟨same, Occurrence.at?_cons_eq_some_iff.mpr ⟨child, hchild, hat⟩, hspared⟩
      · exact Or.inr ⟨number :: above, below, target, rfl,
          Occurrence.at?_cons_eq_some_iff.mpr ⟨child, hchild, hat⟩, htop⟩

/-- **A pass substitutes** (`Substituted`).  Whatever path is put above the new tree, as long as it
looks the same.
-/
theorem substituted_visit {plan : Plan} {occurrence : Occurrence}
    (ready : Ready plan holds occurrence) (progress : Progress) :
    progress.nextId ≤ (visit plan occurrence.slot occurrence.node progress).2.nextId ∧
      ∀ path, Occurrence.trail ⟨(visit plan occurrence.slot occurrence.node progress).1, path⟩
          = occurrence.trail →
        Substituted holds plan.representative progress.nextId
          (visit plan occurrence.slot occurrence.node progress).2.nextId occurrence
          ⟨(visit plan occurrence.slot occurrence.node progress).1, path⟩ := by
  apply matchInduction plan holds
    (P := fun occurrence progress node after => progress.nextId ≤ after.nextId ∧
      ∀ path, Occurrence.trail ⟨node, path⟩ = occurrence.trail →
        Substituted holds plan.representative progress.nextId after.nextId occurrence ⟨node, path⟩)
    (Q := fun occurrences progress nodes after => progress.nextId ≤ after.nextId ∧
      ∀ (number : Nat) child node, occurrences[number]? = some child →
        nodes[number]? = some node → ∀ path, Occurrence.trail ⟨node, path⟩ = child.trail →
        Substituted holds plan.representative progress.nextId after.nextId child ⟨node, path⟩)
    _ _ _ _ ready
  · intro occurrence progress clear hholds
    refine ⟨?_, fun path htrail => substituted_of_holds clear hholds htrail
      (place_inserted plan occurrence.slot occurrence.node progress)⟩
    rw [place_snd]
    show progress.nextId ≤ progress.nextId + _ + _
    omega
  · -- The children are known by number only, and by their nodes: the path to them is any.
    rintro occurrence progress node after clear hholds hkept ⟨hnext, heach⟩
    refine ⟨hnext, fun path htrail => substituted_of_children clear hholds hkept.outline htrail ?_⟩
    intro number child twin hchild htwin hsame
    have hnode : node.children[number]? = some twin.node := by
      rw [← Occurrence.map_node_children ⟨node, path⟩, List.getElem?_map, htwin]
      rfl
    exact heach number child twin.node hchild hnode twin.path hsame
  · intro progress
    exact ⟨Nat.le_refl _, fun number child node hchild => by simp at hchild⟩
  · rintro occurrence rest progress node between nodes after ⟨hnext, hone⟩ ⟨hnextRest, hrest⟩
    refine ⟨Nat.le_trans hnext hnextRest, ?_⟩
    -- The identities of one child's copies lie within the bounds for all children.
    intro number child found hchild hfound path htrail
    cases number with
    | zero =>
      obtain rfl := Option.some.inj hchild
      obtain rfl := Option.some.inj hfound
      exact (hone path htrail).mono (Nat.le_refl _) hnextRest
    | succ number =>
      exact (hrest number child found hchild hfound path htrail).mono hnext (Nat.le_refl _)

end Positions

end Graft

/-! ### The pass over a tree -/

/-- **A pass is simultaneous substitution of the topmost matches.**  It counts the matches and the
topmost ones among them, puts a wrapped copy of the representative at each topmost match and leaves
everything else as it was, so that the numbers of nodes balance. -/
theorem Tree.graft_substitutes_topmost (tree : Tree) (selector : Selector) (fragment : Fragment)
    (distinct : tree.root.ids.Nodup) :
    let grafted := tree.graft selector fragment
    let top := selector.topmost tree.root
    grafted.matched = ((tree.root.occurrences []).filter selector.holds).length ∧
    grafted.replaced = top.length ∧
    grafted.replaced ≤ grafted.matched ∧
    (grafted.replaced = 0 ↔ grafted.matched = 0) ∧
    Graft.Substituted selector.holds fragment.representative tree.nextId grafted.tree.nextId
      ⟨tree.root, []⟩ ⟨grafted.tree.root, []⟩ ∧
    grafted.tree.size + Graft.weight top
      = tree.size + grafted.replaced * fragment.representative.size
        + Graft.wrappers fragment.representative top := by
  intro grafted top
  have ready := Graft.ready_of_distinct distinct selector fragment
  have hmatched : grafted.matched = ((tree.root.occurrences []).filter selector.holds).length := by
    show ((selector.evaluateFrom tree.root).map Node.id).length = _
    rw [Selector.evaluateFrom_eq, List.length_map, List.length_map]
  have hreplaced : grafted.replaced = top.length := by
    have h := Graft.replaced_visit ready ⟨tree.nextId, 0⟩
    rwa [Nat.zero_add] at h
  refine ⟨hmatched, hreplaced, ?_, ?_, ?_, ?_⟩
  · rw [hmatched, hreplaced]
    exact selector.length_topmost_le tree.root
  · -- no topmost match, no match: the first one on the way would be topmost
    rw [hmatched, hreplaced, List.length_eq_zero_iff, List.length_eq_zero_iff]
    constructor
    · intro htop
      rw [List.filter_eq_nil_iff]
      intro found hfound hholds
      exact Occurrence.exists_isTopmost ready.clear hfound hholds htop
    · intro hnone
      have hle := selector.length_topmost_le tree.root
      rw [hnone] at hle
      exact List.length_eq_zero_iff.mp (Nat.le_zero.mp hle)
  · exact (Graft.substituted_visit ready ⟨tree.nextId, 0⟩).2 [] rfl
  · rw [hreplaced]
    exact Graft.size_visit ready ⟨tree.nextId, 0⟩

/-- One call inside another: both match, and the outer one is replaced. -/
theorem Tree.graft_substitutes_outer_call :
    let tree := Tree.ofParseTree Sample.product Sample.productTree
    let selector : Selector := ⟨Sample.calls, some [.compound (.mk (some "CallExpression") [] [])]⟩
    let fragment := Fragment.ofNode (Tree.ofParseTree Sample.sum Sample.sumTree).root
    let grafted := tree.graft selector fragment
    tree.root.ids.Nodup ∧ grafted.matched = 2 ∧ grafted.replaced = 1 ∧
      Graft.Substituted selector.holds fragment.representative tree.nextId grafted.tree.nextId
        ⟨tree.root, []⟩ ⟨grafted.tree.root, []⟩ := by
  have distinct : (Tree.ofParseTree Sample.product Sample.productTree).root.ids.Nodup := by
    decide +kernel
  intro tree selector fragment grafted
  obtain ⟨-, -, -, -, hsubstituted, -⟩ :=
    Tree.graft_substitutes_topmost tree selector fragment distinct
  exact ⟨distinct, rfl, rfl, hsubstituted⟩

end SyntaxGraft
