import SyntaxGraft.Graft.Pass
import SyntaxGraft.Proofs.Tree.Copy
import Mathlib.Data.List.Intervals
/-!
# One walk over a tree

What a pass does at one node: a matched node gives way to a wrapped copy (`Graft.place_inserted`),
and any other node is kept while the pass goes on through its children in order (`Graft.Kept`).
`Graft.visitInduction` says so once, as the induction that every statement about a whole pass
follows; the progress of the pass is threaded through it.  `Graft.matchInduction` is the same by
matches, for a pass whose plan has the identities of these and of nothing else (`Graft.Ready`).
-/

namespace SyntaxGraft

/-! ### Wrappings -/

/-- What is put around a copy. -/
inductive Wrapping where
  | bare
  | statement
  | parentheses

namespace Wrapping

/-- The node with what is put around it, under the given identity. -/
def around : Wrapping → Nat → Node → Node
  | .bare, _, node => node
  | .statement, id, node => Node.expressionStatement id node
  | .parentheses, id, node => Node.parenthesized id node

/-- How many nodes are put around. -/
def count : Wrapping → Nat
  | .bare => 0
  | .statement | .parentheses => 1

/-- The text with what is put around it. -/
def spell : Wrapping → Text → Text
  | .bare, text => text
  | .statement, text => text ++ [';']
  | .parentheses, text => '(' :: text ++ [')']

theorem size_around (wrapping : Wrapping) (id : Nat) (node : Node) :
    (wrapping.around id node).size = node.size + wrapping.count := by
  have hwrapper : ∀ kind, (Node.wrapper kind id node).size = node.size + 1 := by
    intro kind
    rw [Node.size_eq, Node.children_wrapper, Nat.add_comm]
    rfl
  cases wrapping with
  | bare => rfl
  | statement => exact hwrapper _
  | parentheses => exact hwrapper _

/-- What is put around has the identity `id`, and the node keeps its own. -/
theorem ids_around (wrapping : Wrapping) (id : Nat) (node : Node) :
    (wrapping.around id node).ids.Perm (node.ids ++ List.Ico id (id + wrapping.count)) := by
  have hwrapper : ∀ kind,
      (Node.wrapper kind id node).ids.Perm (node.ids ++ List.Ico id (id + 1)) := by
    intro kind
    rw [Node.ids_eq, Node.children_wrapper, List.flatMap_singleton, List.Ico.succ_singleton]
    exact (List.perm_append_singleton _ _).symm
  cases wrapping with
  | bare => simp [around, count]
  | statement => exact hwrapper _
  | parentheses => exact hwrapper _

theorem print_around (wrapping : Wrapping) (id : Nat) (node : Node) :
    (wrapping.around id node).print = wrapping.spell node.print := by
  cases wrapping <;> rfl

end Wrapping

namespace Slot

/-- What the slot demands around a node: what is no statement becomes one among statements, and
elsewhere what binds too loosely gets parentheses. -/
def wrapping (slot : Slot) (node : Node) : Wrapping :=
  if slot.isStatement && !Kind.isStatement node.kind then .statement
  else if slot.needsParens node then .parentheses
  else .bare

theorem wrapping_renumber (slot : Slot) (node : Node) (next : Nat) :
    slot.wrapping (node.renumber next).1 = slot.wrapping node := by
  unfold wrapping
  rw [Node.kind_renumber, needsParens_renumber]

end Slot

/-- The slot an occurrence stands in, `Slot.root` at the top. -/
def Occurrence.slot (occurrence : Occurrence) : Slot :=
  match occurrence.path with
  | [] => .root
  | step :: _ => ⟨step.parent.kind, step.field, step.parent.operator?⟩

namespace Graft

/-- The plan of a pass: the `selector` is evaluated before anything is changed. -/
def planOf (tree : Tree) (selector : Selector) (fragment : Fragment) : Plan :=
  ⟨(selector.evaluate tree).map Node.id, fragment.representative⟩

/-! ### Replacing one node -/

/-- The node is what takes the place of a target in a slot: a copy of the representative with
consecutive fresh identities, wrapped as the slot demands, the wrapping numbered last; the outermost
node has the target's anchor.  All fresh identities lie between the two bounds. -/
def Inserted (representative target : Node) (slot : Slot) (low high : Nat) (node : Node) : Prop :=
  ∃ first copy, low ≤ first ∧
    first + representative.size + (slot.wrapping representative).count ≤ high ∧
    copy.unnumbered = representative.unnumbered ∧
    copy.ids = List.range' first representative.size ∧
    node = ((slot.wrapping representative).around (first + representative.size) copy).withAnchor
      target.anchor

theorem Inserted.mono {representative target node : Node} {slot : Slot} {low high low' high' : Nat}
    (h : Inserted representative target slot low high node) (hlow : low' ≤ low)
    (hhigh : high ≤ high') : Inserted representative target slot low' high' node := by
  obtain ⟨first, copy, hfirst, hlast, hrest⟩ := h
  exact ⟨first, copy, Nat.le_trans hlow hfirst, Nat.le_trans hlast hhigh, hrest⟩

/-- `fit` wraps as the slot demands, and uses up one identity if it does. -/
theorem fit_eq (slot : Slot) (copy : Node) (next : Nat) :
    fit slot copy next =
      ((slot.wrapping copy).around next copy, next + (slot.wrapping copy).count) := by
  unfold fit Slot.wrapping
  split
  · rfl
  · split <;> rfl

theorem place_snd (plan : Plan) (slot : Slot) (target : Node) (progress : Progress) :
    (place plan slot target progress).2 =
      ⟨progress.nextId + plan.representative.size + (slot.wrapping plan.representative).count,
        progress.replaced + 1⟩ := by
  obtain ⟨-, hnext⟩ := plan.representative.ids_renumber progress.nextId
  simp only [place, fit_eq, Slot.wrapping_renumber, hnext]

/-- What stands in the place of a matched node is `Inserted` between the identities before and
after. -/
theorem place_inserted (plan : Plan) (slot : Slot) (target : Node) (progress : Progress) :
    Inserted plan.representative target slot progress.nextId
      (place plan slot target progress).2.nextId (place plan slot target progress).1 := by
  obtain ⟨hids, hnext⟩ := plan.representative.ids_renumber progress.nextId
  refine ⟨progress.nextId, (plan.representative.renumber progress.nextId).1, Nat.le_refl _, ?_,
    plan.representative.unnumbered_renumber _, hids, ?_⟩
  · rw [place_snd]
  · simp only [place, fit_eq, Slot.wrapping_renumber, hnext]

theorem anchor_place (plan : Plan) (slot : Slot) (target : Node) (progress : Progress) :
    (place plan slot target progress).1.anchor = target.anchor := by
  obtain ⟨_, _, _, _, _, _, h⟩ := place_inserted plan slot target progress
  rw [h]
  rfl

/-! ### The walk over children -/

/-- The pass over some occurrences in turn.  `visitFields` and `visitNodes` go through the children
of a node in two nested recursions; this is what they come to. -/
def visitEach (plan : Plan) : List Occurrence → Progress → List Node × Progress
  | [], progress => ([], progress)
  | occurrence :: rest, progress =>
    let (node, progress) := visit plan occurrence.slot occurrence.node progress
    let (rest, progress) := visitEach plan rest progress
    (node :: rest, progress)

theorem visitEach_append (plan : Plan) (occurrences others : List Occurrence)
    (progress : Progress) :
    visitEach plan (occurrences ++ others) progress =
      ((visitEach plan occurrences progress).1
          ++ (visitEach plan others (visitEach plan occurrences progress).2).1,
        (visitEach plan others (visitEach plan occurrences progress).2).2) := by
  induction occurrences generalizing progress with
  | nil => rfl
  | cons occurrence rest ih => simp only [List.cons_append, visitEach, ih]

/-- `visitNodes` is `visitEach`, as the nodes of a sequence share their slot. -/
theorem visitNodes_eq (plan : Plan) (slot : Slot) (occurrences : List Occurrence)
    (h : ∀ occurrence ∈ occurrences, occurrence.slot = slot) (progress : Progress) :
    visitNodes plan slot (occurrences.map Occurrence.node) progress
      = visitEach plan occurrences progress := by
  induction occurrences generalizing progress with
  | nil => rfl
  | cons occurrence rest ih =>
    have hrest := ih fun other hother => h other (List.mem_cons_of_mem _ hother)
    simp only [List.map_cons, visitNodes, visitEach, hrest, h occurrence List.mem_cons_self]

theorem length_visitNodes (plan : Plan) (slot : Slot) (nodes : List Node) (progress : Progress) :
    (visitNodes plan slot nodes progress).1.length = nodes.length := by
  induction nodes generalizing progress with
  | nil => rfl
  | cons node rest ih => simp only [visitNodes, List.length_cons, ih]

/-- `visitFields` keeps the outlines of the fields and goes through their nodes in order. -/
theorem visitFields_eq (plan : Plan) (parent : Node) (path : Path) (fields : List Field)
    (progress : Progress) :
    (visitFields plan parent.kind parent.operator? fields progress).1.map Field.outline
        = fields.map Field.outline ∧
      (Fields.children (visitFields plan parent.kind parent.operator? fields progress).1,
          (visitFields plan parent.kind parent.operator? fields progress).2)
        = visitEach plan (fields.flatMap (Field.occurrences parent path)) progress := by
  induction fields generalizing progress with
  | nil => exact ⟨rfl, rfl⟩
  | cons field rest ih =>
    -- The rest of the fields is visited with the progress that this one leaves.
    obtain ⟨name, value⟩ := field
    cases value with
    | node child =>
      obtain ⟨houtline, heach⟩ := ih (visit plan ⟨parent.kind, name, parent.operator?⟩ child
        progress).2
      constructor
      · simp only [visitFields, List.map_cons, houtline]
        rfl
      · show _ = visitEach plan (⟨child, ⟨parent, name, none⟩ :: path⟩
          :: rest.flatMap (Field.occurrences parent path)) progress
        simp only [visitFields, visitEach, Occurrence.slot, ← heach]
        rfl
    | nodes children =>
      -- The elements of a sequence all stand in the slot of its field.
      have hslot : ∀ occurrence ∈ (Field.mk name (.nodes children)).occurrences parent path,
          occurrence.slot = ⟨parent.kind, name, parent.operator?⟩ := by
        intro occurrence hoccurrence
        obtain ⟨index, hpath⟩ := Field.path_of_mem_occurrences hoccurrence
        rw [Occurrence.slot, hpath]
        rfl
      have hnodes := visitNodes_eq plan _ _ hslot progress
      rw [Field.map_node_occurrences] at hnodes
      obtain ⟨houtline, heach⟩ := ih (visitNodes plan ⟨parent.kind, name, parent.operator?⟩
        children progress).2
      constructor
      · simp only [visitFields, List.map_cons, houtline]
        simp [Field.outline, Value.outline, length_visitNodes]
      · simp only [visitFields, List.flatMap_cons, visitEach_append, ← hnodes]
        rw [Field.value_mk, Value.children_nodes, ← heach]
        rfl
    | scalar value =>
      obtain ⟨houtline, heach⟩ := ih progress
      constructor
      · simp only [visitFields, List.map_cons, houtline]
      · exact heach

theorem visit_of_matched (plan : Plan) (slot : Slot) {node : Node}
    (h : plan.matched.contains node.id = true) (progress : Progress) :
    visit plan slot node progress = place plan slot node progress := by
  obtain ⟨header, fields⟩ := node
  rw [visit]
  exact if_pos h

/-- The node is as it was, apart from the nodes below it, and its children stand in the places of
the children it had. -/
structure Kept (before after : Node) : Prop where
  outline : after.outline = before.outline
  anchors : after.children.map Node.anchor = before.children.map Node.anchor

theorem Kept.header {before after : Node} (h : Kept before after) : after.header = before.header :=
  (Prod.mk.inj h.outline).1

theorem Kept.fields {before after : Node} (h : Kept before after) :
    after.fields.map Field.outline = before.fields.map Field.outline :=
  (Prod.mk.inj h.outline).2

/-- A node that is not matched keeps its outline, and `visit` goes through its children. -/
theorem visit_of_not_matched (plan : Plan) (slot : Slot) {occurrence : Occurrence}
    (h : plan.matched.contains occurrence.node.id = false) (progress : Progress) :
    (visit plan slot occurrence.node progress).1.outline = occurrence.node.outline ∧
      ((visit plan slot occurrence.node progress).1.children,
          (visit plan slot occurrence.node progress).2)
        = visitEach plan occurrence.children progress := by
  obtain ⟨⟨header, fields⟩, path⟩ := occurrence
  have hvisit : visit plan slot (.mk header fields) progress =
      (.mk header
          (visitFields plan header.kind (Node.mk header fields).operator? fields progress).1,
        (visitFields plan header.kind (Node.mk header fields).operator? fields progress).2) := by
    rw [visit]
    exact if_neg (Bool.eq_false_iff.mp h)
  obtain ⟨houtline, hfields⟩ := visitFields_eq plan (.mk header fields) path fields progress
  rw [hvisit]
  exact ⟨congrArg (Prod.mk header) houtline, hfields⟩

/-- A pass leaves every slot with the anchor (`Node.anchor`) it had: a copy takes over that of its
target. -/
theorem anchor_visit (plan : Plan) (slot : Slot) (node : Node) (progress : Progress) :
    (visit plan slot node progress).1.anchor = node.anchor := by
  cases hmatched : plan.matched.contains node.id with
  | true =>
    rw [visit_of_matched plan slot hmatched]
    exact anchor_place plan slot node progress
  | false =>
    obtain ⟨houtline, -⟩ := @visit_of_not_matched plan slot ⟨node, []⟩ hmatched progress
    exact congrArg (fun outline => outline.1.anchor) houtline

theorem map_anchor_visitEach (plan : Plan) (occurrences : List Occurrence) (progress : Progress) :
    (visitEach plan occurrences progress).1.map Node.anchor
      = occurrences.map fun occurrence => occurrence.node.anchor := by
  induction occurrences generalizing progress with
  | nil => rfl
  | cons occurrence rest ih => simp only [visitEach, List.map_cons, anchor_visit, ih]

theorem kept_of_not_matched (plan : Plan) {occurrence : Occurrence}
    (h : plan.matched.contains occurrence.node.id = false) (progress : Progress) :
    Kept occurrence.node (visit plan occurrence.slot occurrence.node progress).1 := by
  obtain ⟨houtline, hchildren⟩ := visit_of_not_matched plan occurrence.slot h progress
  refine ⟨houtline, ?_⟩
  rw [(Prod.mk.inj hchildren).1, map_anchor_visitEach, ← Occurrence.map_node_children, List.map_map]
  rfl

/-- **Induction along a pass.**  `P` speaks of an occurrence and what the pass makes of it, `Q`
of a list of occurrences.  A matched node is replaced; any other is kept, and the pass goes on
through its children. -/
theorem visitInduction (plan : Plan)
    {P : Occurrence → Progress → Node → Progress → Prop}
    {Q : List Occurrence → Progress → List Node → Progress → Prop}
    (matched : ∀ occurrence progress, plan.matched.contains occurrence.node.id = true →
      P occurrence progress (place plan occurrence.slot occurrence.node progress).1
        (place plan occurrence.slot occurrence.node progress).2)
    (kept : ∀ occurrence progress node after, plan.matched.contains occurrence.node.id = false →
      Kept occurrence.node node →
      Q occurrence.children progress node.children after → P occurrence progress node after)
    (nil : ∀ progress, Q [] progress [] progress)
    (cons : ∀ occurrence rest progress node between nodes after,
      P occurrence progress node between → Q rest between nodes after →
      Q (occurrence :: rest) progress (node :: nodes) after)
    (occurrence : Occurrence) (progress : Progress) :
    P occurrence progress (visit plan occurrence.slot occurrence.node progress).1
      (visit plan occurrence.slot occurrence.node progress).2 := by
  induction occurrence using Occurrence.childrenInduction generalizing progress with
  | step occurrence ih =>
    cases hmatched : plan.matched.contains occurrence.node.id with
    | true =>
      rw [visit_of_matched plan _ hmatched]
      exact matched occurrence progress hmatched
    | false =>
      -- The induction hypothesis, carried along the children from one progress to the next.  It is
      -- general in the list, since a rest of the children is not the children of anything.
      have heach : ∀ occurrences : List Occurrence,
          (∀ child ∈ occurrences, child ∈ occurrence.children) → ∀ progress,
          Q occurrences progress (visitEach plan occurrences progress).1
            (visitEach plan occurrences progress).2 := by
        intro occurrences
        induction occurrences with
        | nil => intro _ progress; exact nil progress
        | cons child rest ihRest =>
          intro hmem progress
          exact cons child rest progress _ _ _ _ (ih child (hmem child List.mem_cons_self) progress)
            (ihRest (fun other hother => hmem other (List.mem_cons_of_mem _ hother)) _)
      obtain ⟨-, hchildren⟩ := visit_of_not_matched plan occurrence.slot hmatched progress
      have hrun := heach occurrence.children (fun _ hchild => hchild) progress
      rw [← hchildren] at hrun
      exact kept occurrence progress _ _ hmatched (kept_of_not_matched plan hmatched progress) hrun

/-! ### The walk by matches -/

/-- A pass stands before an occurrence: nothing above it matches, and from here on the identities of
the plan are those of the matches. -/
structure Ready (plan : Plan) (holds : Occurrence → Bool) (occurrence : Occurrence) : Prop where
  clear : ∀ above ∈ occurrence.ancestors, holds above = false
  agree : ∀ found ∈ occurrence.node.occurrences occurrence.path,
    plan.matched.contains found.node.id = holds found

theorem Ready.agree_self {plan : Plan} {holds : Occurrence → Bool} {occurrence : Occurrence}
    (h : Ready plan holds occurrence) :
    plan.matched.contains occurrence.node.id = holds occurrence := by
  apply h.agree
  rw [Occurrence.occurrences_eq]
  exact List.mem_cons_self

theorem Ready.child {plan : Plan} {holds : Occurrence → Bool} {occurrence child : Occurrence}
    (h : Ready plan holds occurrence) (hself : holds occurrence = false)
    (hchild : child ∈ occurrence.children) : Ready plan holds child where
  clear := Occurrence.clear_of_mem_children hchild h.clear hself
  agree found hfound := by
    apply h.agree
    rw [Occurrence.occurrences_eq, Occurrence.descendants_eq]
    exact List.mem_cons_of_mem _ (List.mem_flatMap.mpr ⟨child, hchild, hfound⟩)

/-- **Induction along a pass, by matches.**  As `visitInduction`, with the matches of a property in
place of the identities of the plan; the pass meets no match below another. -/
theorem matchInduction (plan : Plan) (holds : Occurrence → Bool)
    {P : Occurrence → Progress → Node → Progress → Prop}
    {Q : List Occurrence → Progress → List Node → Progress → Prop}
    (matched : ∀ occurrence progress, (∀ above ∈ occurrence.ancestors, holds above = false) →
      holds occurrence = true →
      P occurrence progress (place plan occurrence.slot occurrence.node progress).1
        (place plan occurrence.slot occurrence.node progress).2)
    (kept : ∀ occurrence progress node after,
      (∀ above ∈ occurrence.ancestors, holds above = false) → holds occurrence = false →
      Kept occurrence.node node →
      Q occurrence.children progress node.children after → P occurrence progress node after)
    (nil : ∀ progress, Q [] progress [] progress)
    (cons : ∀ occurrence rest progress node between nodes after,
      P occurrence progress node between → Q rest between nodes after →
      Q (occurrence :: rest) progress (node :: nodes) after)
    {occurrence : Occurrence} (ready : Ready plan holds occurrence) (progress : Progress) :
    P occurrence progress (visit plan occurrence.slot occurrence.node progress).1
      (visit plan occurrence.slot occurrence.node progress).2 := by
  revert ready
  -- Being ready passes from a node that stays to its children.
  apply visitInduction plan
    (P := fun occurrence progress node after =>
      Ready plan holds occurrence → P occurrence progress node after)
    (Q := fun occurrences progress nodes after =>
      (∀ occurrence ∈ occurrences, Ready plan holds occurrence) →
        Q occurrences progress nodes after)
  · intro occurrence progress hmatched ready
    rw [ready.agree_self] at hmatched
    exact matched occurrence progress ready.clear hmatched
  · intro occurrence progress node after hmatched hkept heach ready
    rw [ready.agree_self] at hmatched
    exact kept occurrence progress node after ready.clear hmatched hkept
      (heach fun child hchild => ready.child hmatched hchild)
  · intro progress _
    exact nil progress
  · intro occurrence rest progress node between nodes after hone hrest ready
    exact cons occurrence rest progress node between nodes after
      (hone (ready occurrence List.mem_cons_self))
      (hrest fun other hother => ready other (List.mem_cons_of_mem _ hother))

end Graft

end SyntaxGraft
