import SyntaxGraft.Proofs.Graft.Walk
import SyntaxGraft.Proofs.Parse.Conversion
/-!
# Every tree of a session can be printed

A pass puts nodes from one text into the text of another, so after it spans and anchors no longer
agree; and the next pass may take such a node, or a wrapper, to put it elsewhere again.  What stays
true is that every node is settled (`Graft.settled_visit`), because what a pass puts in takes over
the anchor of what was there.

`Reachable` has the trees that parsing and grafting lead to, with fragments from texts and from
nodes of other such trees.  `Tree.Printable` is the invariant: `Tree.Printable.of_parse` begins with
it, `Tree.Printable.graft` keeps it, and `Reachable.settled_and_prints` reads off that printing goes
well.
-/

namespace SyntaxGraft

/-! ### Where fragments come from -/

theorem Fields.mem_children_of_get? {fields : List Field} {child : Node} {name : String}
    {value : Value} (hvalue : get? name fields = some value) (h : child ∈ value.children) :
    child ∈ children fields := by
  induction fields with
  | nil => cases hvalue
  | cons field rest ih =>
    rw [get?] at hvalue
    rw [children_cons, List.mem_append]
    split at hvalue
    · obtain rfl := Option.some.inj hvalue
      exact Or.inl h
    · exact Or.inr (ih hvalue)

/-- What a statement stands for, by `unwrap`, is the statement or a node below it. -/
theorem Fragment.unwrap_mem_nodes (statement : Node) : unwrap statement ∈ statement.nodes := by
  unfold unwrap
  split
  · split
    next expression hexpression =>
      exact Node.mem_nodes_of_child (Fields.mem_children_of_get? hexpression List.mem_cons_self)
        (Node.self_mem_nodes _)
    next => exact statement.self_mem_nodes
  · exact statement.self_mem_nodes

/-- The representative that `Fragment.parse` gives is one of the nodes of the parsed text. -/
theorem Fragment.exists_of_parse {grammar : Grammar} {text : Text} {fragment : Fragment}
    (h : Fragment.parse grammar text = .ok fragment) :
    ∃ tree, Tree.parse grammar text = .ok tree ∧ fragment.representative ∈ tree.root.nodes := by
  unfold Fragment.parse at h
  split at h
  · cases h
  next tree htree =>
    refine ⟨tree, htree, ?_⟩
    unfold Fragment.ofTree at h
    split at h
    · cases h
    next statement hstatements =>
      obtain rfl := Except.ok.inj h
      refine Node.mem_nodes_trans ?_ (unwrap_mem_nodes statement)
      have hmem : statement ∈ tree.statements := by simp [hstatements]
      unfold Tree.statements at hmem
      split at hmem
      next value hvalue =>
        exact Node.mem_nodes_of_child (Fields.mem_children_of_get? hvalue hmem)
          statement.self_mem_nodes
      next => cases hmem
    · cases h

/-! ### One pass -/

namespace Graft

/-- Another anchor for a node leaves it settled: `Settled` asks for the anchors of the children, not
for the node's own. -/
theorem settled_withAnchor {node : Node} (h : ∀ found ∈ node.nodes, found.Settled)
    (range : Option ByteRange) : ∀ found ∈ (node.withAnchor range).nodes, found.Settled := by
  intro found hfound
  rcases Node.mem_nodes_iff.mp hfound with rfl | ⟨child, hchild, hbelow⟩
  · exact (h node node.self_mem_nodes).withAnchor range
  · exact h found (Node.mem_nodes_of_child hchild hbelow)

/-- A wrapper around settled nodes is settled, as it has no text of its own to splice into. -/
theorem settled_around {node : Node} (h : ∀ found ∈ node.nodes, found.Settled)
    (wrapping : Wrapping) (id : Nat) :
    ∀ found ∈ (wrapping.around id node).nodes, found.Settled := by
  have hwrapper : ∀ kind ∈ Kind.wrapperKinds, ∀ found ∈ (Node.wrapper kind id node).nodes,
      found.Settled := by
    intro kind hkind found hfound
    rcases Node.mem_nodes_iff.mp hfound with rfl | ⟨child, hchild, hbelow⟩
    · exact Node.settled_wrapper hkind id node
    · rw [List.mem_singleton.mp hchild] at hbelow
      exact h found hbelow
  cases wrapping with
  | bare => exact h
  | statement => exact hwrapper "ExpressionStatement" (by decide)
  | parentheses => exact hwrapper "ParenthesizedExpression" (by decide)

/-- What takes the place of a node is settled (`Node.Settled`), down to the last node. -/
theorem settled_place {plan : Plan} (h : ∀ found ∈ plan.representative.nodes, found.Settled)
    (slot : Slot) (target : Node) (progress : Progress) :
    ∀ found ∈ (place plan slot target progress).1.nodes, found.Settled := by
  obtain ⟨first, copy, -, -, hcopy, -, hnode⟩ := place_inserted plan slot target progress
  -- Each node of the copy is one of the representative but for its identity.
  have hsettled : ∀ found ∈ copy.nodes, found.Settled := by
    intro found hfound
    obtain ⟨source, hsource, hsame⟩ := Node.exists_mem_nodes_of_unnumbered_eq hcopy hfound
    exact (h source hsource).of_unnumbered_eq hsame.symm
  rw [hnode]
  exact settled_withAnchor (settled_around hsettled _ _) _

/-- **A pass keeps every node settled**, by recursion along `visit`. -/
theorem settled_visit {plan : Plan} (hplan : ∀ found ∈ plan.representative.nodes, found.Settled)
    (occurrence : Occurrence) (progress : Progress)
    (h : ∀ found ∈ occurrence.node.nodes, found.Settled) :
    ∀ found ∈ (visit plan occurrence.slot occurrence.node progress).1.nodes, found.Settled := by
  revert h
  apply visitInduction plan
    (P := fun occurrence _ node _ => (∀ found ∈ occurrence.node.nodes, found.Settled) →
      ∀ found ∈ node.nodes, found.Settled)
    (Q := fun occurrences _ nodes _ =>
      (∀ occurrence ∈ occurrences, ∀ found ∈ occurrence.node.nodes, found.Settled) →
        ∀ node ∈ nodes, ∀ found ∈ node.nodes, found.Settled)
  · -- a match gives way to a copy, whatever it was
    intro occurrence progress _ _
    exact settled_place hplan _ _ _
  · -- a node that stays, around children that may have been replaced
    intro occurrence progress node after _ hkept heach h
    have hsettled := heach fun child hchild found hfound =>
      h found (Node.mem_nodes_of_child (Occurrence.node_mem_children hchild) hfound)
    intro found hfound
    rcases Node.mem_nodes_iff.mp hfound with rfl | ⟨child, hchild, hbelow⟩
    · -- Whatever stands among the children now, it stands at the same anchors.
      exact (h occurrence.node occurrence.node.self_mem_nodes).transfer
        (congrArg Header.kind hkept.header) (congrArg Header.origin hkept.header) hkept.fields
        hkept.anchors
    · exact hsettled child hchild found hbelow
  · intro progress _
    simp
  · intro occurrence rest progress node between nodes after hone hrest h
    obtain ⟨hfirst, hothers⟩ := List.forall_mem_cons.mp h
    exact List.forall_mem_cons.mpr ⟨hone hfirst, hrest hothers⟩

end Graft

/-! ### Sessions -/

/-- The trees that parsing and grafting lead to, where the grammar's trees are well formed.  What is
grafted is a parsed text or any node of such a tree, be it the same tree or another, and be the node
parsed, copied or made. -/
inductive Reachable (grammar : Grammar) : Tree → Prop
  | parsed {text : Text} {tree : Tree} (hwell : grammar.WellFormedAt text)
      (hparse : Tree.parse grammar text = .ok tree) : Reachable grammar tree
  | graftText {tree : Tree} {text : Text} {fragment : Fragment} (selector : Selector)
      (htree : Reachable grammar tree) (hwell : grammar.WellFormedAt text)
      (hparse : Fragment.parse grammar text = .ok fragment) :
      Reachable grammar (tree.graft selector fragment).tree
  | graftNode {tree donor : Tree} {node : Node} (selector : Selector)
      (htree : Reachable grammar tree) (hdonor : Reachable grammar donor)
      (hnode : node ∈ donor.root.nodes) :
      Reachable grammar (tree.graft selector (Fragment.ofNode node)).tree

/-- The root stands in the text of the tree, and every node is settled. -/
structure Tree.Printable (tree : Tree) : Prop where
  anchored : ∃ range, tree.root.anchor = some range ∧ range.FitsIn tree.source
  settled : ∀ node ∈ tree.root.nodes, node.Settled

namespace Tree.Printable

variable {grammar : Grammar} {tree : Tree}

theorem of_parse {text : Text} (hwell : grammar.WellFormedAt text)
    (h : Tree.parse grammar text = .ok tree) : tree.Printable := by
  obtain ⟨⟨range, hanchor, hfits⟩, hintact⟩ := Tree.intact_of_parse hwell h
  refine ⟨⟨range, hanchor, ?_⟩, fun node hnode => (hintact node hnode).settled⟩
  rw [Tree.source_of_parse h]
  exact hfits

/-- **One pass** keeps a tree printable.  `anchor_visit` has the root's anchor, which it keeps even
where the root itself is replaced. -/
theorem graft (h : tree.Printable) (selector : Selector) {fragment : Fragment}
    (hfragment : ∀ node ∈ fragment.representative.nodes, node.Settled) :
    (tree.graft selector fragment).tree.Printable := by
  have hanchor := Graft.anchor_visit (Graft.planOf tree selector fragment) .root tree.root
    ⟨tree.nextId, 0⟩
  have hsettled := @Graft.settled_visit (Graft.planOf tree selector fragment) hfragment
    ⟨tree.root, []⟩ ⟨tree.nextId, 0⟩ h.settled
  obtain ⟨range, hrange, hfits⟩ := h.anchored
  exact ⟨⟨range, hanchor.trans hrange, hfits⟩, hsettled⟩

end Tree.Printable

namespace Reachable

variable {grammar : Grammar} {tree : Tree}

/-- By induction on how the tree was reached.  The donor of a fragment is reached itself, so its
nodes are settled by the same induction. -/
theorem printable (h : Reachable grammar tree) : tree.Printable := by
  induction h with
  | parsed hwell hparse => exact .of_parse hwell hparse
  | graftText selector _ hwell hparse ih =>
    obtain ⟨donor, hdonor, hmem⟩ := Fragment.exists_of_parse hparse
    apply ih.graft selector
    intro node hnode
    exact (Tree.Printable.of_parse hwell hdonor).settled node (Node.mem_nodes_trans hmem hnode)
  | @graftNode tree donor taken selector _ _ htaken ih ihDonor =>
    apply ih.graft selector
    intro node hnode
    have hbelow := Node.mem_nodes_trans (Fragment.unwrap_mem_nodes taken) hnode
    exact ihDonor.settled node (Node.mem_nodes_trans htaken hbelow)

/-- **Every tree of a session can be printed.**  All its nodes are settled.  Hence no step of
printing the tree or a node of it goes wrong, and every node prints each of its children once. -/
theorem settled_and_prints (h : Reachable grammar tree) :
    (∀ node ∈ tree.root.nodes,
      node.Settled ∧ node.print? = some node.print ∧ node.PrintsEachChild) ∧
    tree.print? = some tree.print := by
  obtain ⟨⟨range, hanchor, hfits⟩, hsettled⟩ := h.printable
  refine ⟨fun node hnode => ⟨hsettled node hnode, ?_, (hsettled node hnode).printsEachChild⟩,
    Tree.print?_eq_some hanchor hfits hsettled⟩
  apply Node.print?_eq_some
  intro found hfound
  exact hsettled found (Node.mem_nodes_trans hnode hfound)

/-- A sum is put into a product, in parentheses; then the whole takes the place of each of its own
identifiers. -/
theorem prints_after_two_passes :
    let parsed := Tree.ofParseTree Sample.product Sample.productTree
    let calls : Selector := ⟨Sample.calls, some [.compound (.mk (some "CallExpression") [] [])]⟩
    let names : Selector := ⟨[], some [.compound (.mk (some "Identifier") [] [])]⟩
    ∃ fragment, Fragment.parse Sample.grammar Sample.sum = .ok fragment ∧
      let once := (parsed.graft calls fragment).tree
      let twice := (once.graft names (Fragment.ofNode once.root)).tree
      Reachable Sample.grammar twice ∧ twice.print? = some twice.print := by
  intro parsed calls names
  refine ⟨_, rfl, ?_⟩
  intro once twice
  have hparsed : Reachable Sample.grammar parsed := .parsed Sample.wellFormedAt_product rfl
  have honce : Reachable Sample.grammar once :=
    .graftText calls hparsed Sample.wellFormedAt_sum rfl
  have htwice : Reachable Sample.grammar twice :=
    .graftNode names honce honce once.root.self_mem_nodes
  exact ⟨htwice, (settled_and_prints htwice).2⟩

end Reachable

end SyntaxGraft
