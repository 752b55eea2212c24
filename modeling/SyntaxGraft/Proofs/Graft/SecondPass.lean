import SyntaxGraft.Proofs.Graft.Substitution
import SyntaxGraft.Proofs.Tree.Kinship
import SyntaxGraft.Tree.Print
/-!
# What a pass leaves to match

Many selectors look at a node alone: its kind and its scalars decide.  A node that a pass keeps has
the kind and the scalars it had, and a copy has those of its original.  So after a pass such a
selector matches nothing of the old tree any more, and in each copy as often as in the
representative (`Graft.tally_visit`).  Where the representative has no match, a second pass finds
nothing and changes nothing (`Tree.graft_leaves_no_match`).
-/

namespace SyntaxGraft

/-! ### Kinds and scalars -/

/-- The scalar fields of a node with their names, in order (`Value.scalar`). -/
def Node.scalars (node : Node) : List (String × Scalar) :=
  node.fields.filterMap fun field => field.value.scalar?.map fun scalar => (field.name, scalar)

/-- A judgement of nodes (`Node.scalars`) by their kind and their scalars. -/
abbrev Verdict := String → List (String × Scalar) → Bool

/-- The judgement of a node: `verdict` on its kind and its `scalars`. -/
def Verdict.holds (verdict : Verdict) (node : Node) : Bool :=
  verdict node.kind node.scalars

/-- At every place of the subtree the selector matches as the `verdict` on the node there says. -/
def Selector.Follows (selector : Selector) (verdict : Verdict) (root : Node) : Prop :=
  ∀ place ∈ root.occurrences [], selector.holds place = verdict.holds place.node

/-- A selector of a kind `Follows` the verdict on the kind, in every tree. -/
theorem Selector.follows_kind {kind : String} (selector : Selector)
    (h : selector.list = some [.compound (.mk (some kind) [] [])]) (root : Node) :
    selector.Follows (fun found _ => Kind.satisfies kind found) root := by
  intro place _
  rw [holds, h]
  simp [SelectorList.holds, someComplexHolds, Complex.holds, Compound.holds, allPseudosHold,
    Verdict.holds]

namespace Node

/-- The `scalars` are part of the `outline`. -/
theorem scalars_eq (node : Node) :
    node.scalars = node.outline.2.filterMap fun field =>
      match field.2 with
      | .scalar value => some (field.1, value)
      | _ => none := by
  rw [scalars, outline, List.filterMap_map]
  apply List.filterMap_congr
  rintro ⟨name, value⟩ -
  cases value <;> rfl

theorem scalars_of_outline_eq {node other : Node}
    (h : node.fields.map Field.outline = other.fields.map Field.outline) :
    node.scalars = other.scalars := by
  rw [scalars_eq, scalars_eq]
  exact congrArg _ h

end Node

namespace Verdict

variable {verdict : Verdict} {node other : Node}

theorem holds_of_outline_eq (h : node.outline = other.outline) :
    verdict.holds node = verdict.holds other := by
  obtain ⟨hheader, hfields⟩ := Prod.mk.inj h
  rw [holds, holds, Node.scalars_of_outline_eq hfields, Node.kind, Node.kind, hheader]

theorem holds_unnumbered (node : Node) : verdict.holds node.unnumbered = verdict.holds node := by
  rw [holds, holds, Node.kind_unnumbered,
    Node.scalars_of_outline_eq node.outline_fields_unnumbered]

/-- How many nodes of a subtree pass, by `verdict.holds`. -/
def tally (verdict : Verdict) (node : Node) : Nat :=
  node.nodes.countP verdict.holds

theorem tally_eq (verdict : Verdict) (node : Node) :
    verdict.tally node
      = (if verdict.holds node then 1 else 0) + (node.children.map verdict.tally).sum := by
  rw [tally, Node.nodes_eq, List.countP_cons, List.countP_flatMap, Nat.add_comm]
  rfl

theorem tally_withAnchor (node : Node) (range : Option ByteRange) :
    verdict.tally (node.withAnchor range) = verdict.tally node := by
  rw [tally_eq, tally_eq, Node.children_withAnchor]
  rfl

/-- Copies have the same `tally`. -/
theorem tally_of_unnumbered_eq (h : node.unnumbered = other.unnumbered) :
    verdict.tally node = verdict.tally other := by
  have hforget : ∀ node : Node, verdict.tally node.unnumbered = verdict.tally node := by
    intro node
    rw [tally, Node.nodes_unnumbered, List.countP_map, tally]
    apply List.countP_congr
    intro found _
    rw [Function.comp_apply, holds_unnumbered]
  rw [← hforget, h, hforget]

end Verdict

/-! ### Copies and what is put around them -/

/-- The kind of what is put around (`Node.kind`), if anything is. -/
def Wrapping.kind? : Wrapping → Option String
  | .bare => none
  | .statement => some "ExpressionStatement"
  | .parentheses => some "ParenthesizedExpression"

/-- What is put around passes; it has no scalars. -/
def Verdict.wraps (verdict : Verdict) (wrapping : Wrapping) : Bool :=
  wrapping.kind?.any fun kind => verdict kind []

namespace Verdict

variable {verdict : Verdict}

/-- What is put around a node is one node more, if anything is, and passes or not by `wraps`. -/
theorem tally_around (wrapping : Wrapping) (id : Nat) (node : Node) :
    verdict.tally (wrapping.around id node)
      = verdict.tally node + if verdict.wraps wrapping then 1 else 0 := by
  have hwrapper : ∀ kind, verdict.tally (Node.wrapper kind id node)
      = verdict.tally node + if verdict kind [] then 1 else 0 := by
    intro kind
    rw [tally_eq, Node.children_wrapper, List.map_singleton, List.sum_singleton, Nat.add_comm]
    rfl
  cases wrapping with
  | bare => rfl
  | statement => exact hwrapper _
  | parentheses => exact hwrapper _

/-- In the place of a target pass the nodes of a copy, and what is put around it. -/
theorem tally_inserted {representative target node : Node} {slot : Slot} {low high : Nat}
    (h : Graft.Inserted representative target slot low high node) :
    verdict.tally node = verdict.tally representative
      + if verdict.wraps (slot.wrapping representative) then 1 else 0 := by
  obtain ⟨first, copy, -, -, hcopy, -, rfl⟩ := h
  rw [tally_withAnchor, tally_around, tally_of_unnumbered_eq hcopy]

end Verdict

namespace Graft

/-- The occurrences where what is put around a copy passes.  This depends on the slot, so it cannot
be counted with the copy. -/
def passingWrappers (verdict : Verdict) (representative : Node) (occurrences : List Occurrence) :
    List Occurrence :=
  occurrences.filter fun occurrence => verdict.wraps (occurrence.slot.wrapping representative)

/-- **What passes after a pass came with the copies.**  Nothing that stays passes, where the pass
replaces all that does. -/
theorem tally_visit {plan : Plan} {holds : Occurrence → Bool} {occurrence : Occurrence}
    {verdict : Verdict} (ready : Ready plan holds occurrence)
    (follows : ∀ place ∈ occurrence.node.occurrences occurrence.path,
      holds place = verdict.holds place.node)
    (progress : Progress) :
    verdict.tally (visit plan occurrence.slot occurrence.node progress).1
      = (occurrence.topmost holds).length * verdict.tally plan.representative
        + (passingWrappers verdict plan.representative (occurrence.topmost holds)).length := by
  revert follows
  apply matchInduction plan holds
    (P := fun occurrence _ node _ =>
      (∀ place ∈ occurrence.node.occurrences occurrence.path,
        holds place = verdict.holds place.node) →
      verdict.tally node = (occurrence.topmost holds).length * verdict.tally plan.representative
        + (passingWrappers verdict plan.representative (occurrence.topmost holds)).length)
    (Q := fun occurrences _ nodes _ =>
      (∀ occurrence ∈ occurrences, ∀ place ∈ occurrence.node.occurrences occurrence.path,
        holds place = verdict.holds place.node) →
      (nodes.map verdict.tally).sum
        = (occurrences.flatMap (Occurrence.topmost holds)).length
            * verdict.tally plan.representative
          + (passingWrappers verdict plan.representative
              (occurrences.flatMap (Occurrence.topmost holds))).length)
    _ _ _ _ ready
  · -- a match is its own topmost one: a copy of the representative, and its wrapper
    intro occurrence progress clear hholds _
    rw [Verdict.tally_inserted (place_inserted plan occurrence.slot occurrence.node progress),
      Occurrence.topmost_of_holds clear hholds, List.length_singleton, Nat.one_mul,
      passingWrappers, List.filter_singleton]
    cases verdict.wraps (occurrence.slot.wrapping plan.representative) <;> rfl
  · intro occurrence progress node after _ hholds hkept heach follows
    -- The node did not match before, and what the verdict sees of it is what it was.
    have hself : verdict.holds node = false := by
      rw [Verdict.holds_of_outline_eq hkept.outline, ← follows occurrence, hholds]
      rw [Occurrence.occurrences_eq]
      exact List.mem_cons_self
    have hchildren := heach fun child hchild place hplace => by
      apply follows
      rw [Occurrence.occurrences_eq, Occurrence.descendants_eq]
      exact List.mem_cons_of_mem _ (List.mem_flatMap.mpr ⟨child, hchild, hplace⟩)
    rw [Occurrence.topmost_of_not_holds hholds, Verdict.tally_eq, hself, hchildren,
      if_neg (by simp), Nat.zero_add]
  · intro progress _
    simp [passingWrappers]
  · -- both sides are sums over the children
    intro occurrence rest progress node between nodes after hone hrest follows
    rw [List.map_cons, List.sum_cons, hone (follows occurrence List.mem_cons_self),
      hrest fun other hother => follows other (List.mem_cons_of_mem _ hother), List.flatMap_cons,
      List.length_append, Nat.add_mul, passingWrappers, passingWrappers, passingWrappers,
      List.filter_append, List.length_append]
    omega

/-! ### A pass without matches -/

mutual

/-- A pass that looks for nothing changes nothing.  `matchInduction` would tell what stays of each
node, not that the whole is equal; so the recursion of `visit` is followed itself. -/
theorem visit_of_matched_eq_nil {plan : Plan} (h : plan.matched = []) :
    ∀ (slot : Slot) (node : Node) (progress : Progress),
      visit plan slot node progress = (node, progress)
  | slot, .mk header fields, progress => by
    have hnone : ¬ plan.matched.contains header.id = true := by simp [h]
    rw [visit, if_neg hnone]
    simp only [visitFields_of_matched_eq_nil h]

theorem visitFields_of_matched_eq_nil {plan : Plan} (h : plan.matched = []) :
    ∀ {parent : String} {operator : Option String} (fields : List Field) (progress : Progress),
      visitFields plan parent operator fields progress = (fields, progress)
  | _, _, [], _ => rfl
  | _, _, .mk name (.node child) :: rest, progress => by
    simp only [visitFields, visit_of_matched_eq_nil h, visitFields_of_matched_eq_nil h rest]
  | _, _, .mk name (.nodes children) :: rest, progress => by
    simp only [visitFields, visitNodes_of_matched_eq_nil h, visitFields_of_matched_eq_nil h rest]
  | _, _, .mk name (.scalar value) :: rest, progress => by
    simp only [visitFields, visitFields_of_matched_eq_nil h rest]

theorem visitNodes_of_matched_eq_nil {plan : Plan} (h : plan.matched = []) :
    ∀ (slot : Slot) (nodes : List Node) (progress : Progress),
      visitNodes plan slot nodes progress = (nodes, progress)
  | _, [], _ => rfl
  | slot, node :: rest, progress => by
    simp only [visitNodes, visit_of_matched_eq_nil h, visitNodes_of_matched_eq_nil h slot rest]

end

end Graft

/-! ### The next pass -/

/-- A position below another (`++`) leads on from what stands at the other. -/
theorem Occurrence.at?_append (occurrence : Occurrence) (above below : List Nat) :
    occurrence.at? (above ++ below) = (occurrence.at? above).bind fun found => found.at? below := by
  induction above generalizing occurrence with
  | nil => rfl
  | cons number rest ih =>
    rw [List.cons_append, at?, at?, Option.bind_assoc]
    exact congrArg _ (funext ih)

/-- Where a selector follows a verdict, its matches are the nodes that pass. -/
theorem Selector.Follows.length_evaluateFrom {selector : Selector} {verdict : Verdict} {root : Node}
    (h : selector.Follows verdict root) :
    (selector.evaluateFrom root).length = verdict.tally root := by
  rw [evaluateFrom_eq, List.length_map, ← List.countP_eq_length_filter, Verdict.tally, Node.nodes,
    List.countP_map]
  apply List.countP_congr
  intro place hplace
  rw [h place hplace, Function.comp_apply]

namespace Tree

variable {tree : Tree} {selector : Selector} {fragment : Fragment}

/-- `graft` for a selector without matches gives the tree back, and counts nothing. -/
theorem graft_of_evaluate_eq_nil (h : selector.evaluate tree = []) (fragment : Fragment) :
    tree.graft selector fragment = ⟨tree, 0, 0⟩ := by
  simp only [graft, h, List.map_nil, Graft.visit_of_matched_eq_nil, List.length_nil]

/-- **What a match after a pass is part of.**  A copy stands above it or is the match itself, in the
place of a topmost match. -/
theorem exists_copy_of_match (distinct : tree.root.ids.Nodup) {verdict : Verdict}
    (before : selector.Follows verdict tree.root)
    (after : selector.Follows verdict (tree.graft selector fragment).tree.root)
    {position : List Nat} {found : Occurrence}
    (hfound : Occurrence.at? ⟨(tree.graft selector fragment).tree.root, []⟩ position = some found)
    (hholds : selector.holds found = true) :
    ∃ above below target copy, position = above ++ below ∧
      Occurrence.at? ⟨tree.root, []⟩ above = some target ∧
      target.isTopmost selector.holds = true ∧
      Occurrence.at? ⟨(tree.graft selector fragment).tree.root, []⟩ above = some copy ∧
      Graft.Inserted fragment.representative target.node target.slot tree.nextId
        (tree.graft selector fragment).tree.nextId copy.node ∧
      copy.at? below = some found := by
  have ready := Graft.ready_of_distinct distinct selector fragment
  have hsubstituted := (Graft.substituted_visit ready ⟨tree.nextId, 0⟩).2 [] rfl
  rcases hsubstituted.covered position found hfound with
    ⟨same, hsame, hspared⟩ | ⟨above, below, target, rfl, htarget, htop⟩
  · -- A node that stays looks as it did, and then it did not match.
    obtain ⟨kept, hkept, houtline, -⟩ := hsubstituted.kept position same hsame hspared
    obtain rfl := Option.some.inj (hkept.symm.trans hfound)
    have hnot := (Occurrence.isSpared_iff.mp hspared).1
    rw [after kept (Occurrence.mem_occurrences_iff.mpr ⟨position, hfound⟩),
      Verdict.holds_of_outline_eq houtline,
      ← before same (Occurrence.mem_occurrences_iff.mpr ⟨position, hsame⟩), hnot] at hholds
    cases hholds
  · obtain ⟨copy, hcopy, hinserted, -⟩ := hsubstituted.replaced above target htarget htop
    refine ⟨above, below, target, copy, rfl, htarget, htop, hcopy, hinserted, ?_⟩
    have hbelow := hfound
    rw [Occurrence.at?_append] at hbelow
    exact (congrArg (Option.bind · _) hcopy).symm.trans hbelow

/-- **A pass leaves no match of its own behind.**  For a selector that looks at kinds and scalars
only, the matches in the new tree are those in the copies and what is put around them.  Where these
have none, a second pass finds nothing and changes nothing. -/
theorem graft_leaves_no_match (tree : Tree) (selector : Selector) (fragment : Fragment)
    (verdict : Verdict) (distinct : tree.root.ids.Nodup)
    (before : selector.Follows verdict tree.root)
    (within : selector.Follows verdict fragment.representative)
    (after : selector.Follows verdict (tree.graft selector fragment).tree.root) :
    let grafted := tree.graft selector fragment
    let again := grafted.tree.graft selector fragment
    let top := selector.topmost tree.root
    (∀ position found, Occurrence.at? ⟨grafted.tree.root, []⟩ position = some found →
      selector.holds found = true →
      ∃ above below target copy, position = above ++ below ∧
        Occurrence.at? ⟨tree.root, []⟩ above = some target ∧
        target.isTopmost selector.holds = true ∧
        Occurrence.at? ⟨grafted.tree.root, []⟩ above = some copy ∧
        Graft.Inserted fragment.representative target.node target.slot tree.nextId
          grafted.tree.nextId copy.node ∧
        copy.at? below = some found) ∧
    (selector.evaluate grafted.tree).length
      = grafted.replaced * (selector.evaluateFrom fragment.representative).length
        + (Graft.passingWrappers verdict fragment.representative top).length ∧
    (selector.evaluateFrom fragment.representative = [] →
      verdict "ExpressionStatement" [] = false → verdict "ParenthesizedExpression" [] = false →
      again.matched = 0 ∧ again.replaced = 0 ∧ again.tree = grafted.tree ∧
        again.tree.print = grafted.tree.print) := by
  intro grafted again top
  have ready := Graft.ready_of_distinct distinct selector fragment
  have hreplaced : grafted.replaced = top.length := by
    have h := Graft.replaced_visit ready ⟨tree.nextId, 0⟩
    rwa [Nat.zero_add] at h
  have hcount : (selector.evaluate grafted.tree).length
      = grafted.replaced * (selector.evaluateFrom fragment.representative).length
        + (Graft.passingWrappers verdict fragment.representative top).length := by
    rw [Selector.evaluate, after.length_evaluateFrom, within.length_evaluateFrom, hreplaced]
    exact Graft.tally_visit ready before ⟨tree.nextId, 0⟩
  refine ⟨fun position found => exists_copy_of_match distinct before after, hcount, ?_⟩
  intro hnone hstatement hparentheses
  have hwraps : ∀ wrapping, verdict.wraps wrapping = false := by
    intro wrapping
    cases wrapping with
    | bare => rfl
    | statement => exact hstatement
    | parentheses => exact hparentheses
  -- No match in a copy and none in a wrapper: the count is zero.
  have hnil : selector.evaluate grafted.tree = [] := by
    rw [← List.length_eq_zero_iff, hcount, hnone, Graft.passingWrappers,
      List.filter_eq_nil_iff.mpr fun target _ => by simp [hwraps]]
    rfl
  have hagain : again = ⟨grafted.tree, 0, 0⟩ := graft_of_evaluate_eq_nil hnil fragment
  rw [hagain]
  exact ⟨rfl, rfl, rfl, rfl⟩

/-- Calls give way to a sum in parentheses: no call is left, and a second pass is idle. -/
theorem graft_leaves_no_call :
    let tree := Tree.ofParseTree Sample.product Sample.productTree
    let selector : Selector := ⟨Sample.calls, some [.compound (.mk (some "CallExpression") [] [])]⟩
    let fragment := Fragment.ofNode (Tree.ofParseTree Sample.sum Sample.sumTree).root
    let grafted := tree.graft selector fragment
    let again := grafted.tree.graft selector fragment
    tree.root.ids.Nodup ∧ grafted.matched = 2 ∧ again.matched = 0 ∧
      again.tree = grafted.tree := by
  have distinct : (Tree.ofParseTree Sample.product Sample.productTree).root.ids.Nodup := by
    decide +kernel
  intro tree selector fragment grafted again
  have follows := selector.follows_kind rfl
  have hnone : selector.evaluateFrom fragment.representative = [] := rfl
  obtain ⟨-, -, hsecond⟩ := graft_leaves_no_match tree selector fragment _ distinct
    (follows tree.root) (follows fragment.representative) (follows grafted.tree.root)
  obtain ⟨hmatched, -, hagain, -⟩ := hsecond hnone (by decide) (by decide)
  exact ⟨distinct, rfl, hmatched, hagain⟩

end Tree

end SyntaxGraft
