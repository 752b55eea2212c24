import SyntaxGraft.Proofs.Graft.Identity
import SyntaxGraft.Proofs.Graft.Printable
import SyntaxGraft.Proofs.Graft.Substitution
import SyntaxGraft.Proofs.Selector.Cache
import SyntaxGraft.Replace
/-!
# Replacing is splicing

Seen from outside, replacing in a text edits the text: the byte range of each topmost match gives
way to the text of the replacement's representative, with a semicolon after it or parentheses around
it where the slot demands that, and every other byte stays in place.

The statement about a whole text (`replace_splices`) comes from the one about a pass over a parsed
tree (`Graft.spliced_visit`): there the splices of the children, which are stored by field, are put
in order of their places and composed (`Node.spliced_print`).  `Tree.spliced_print_graft` adds what
stands before and after the root.
-/

namespace SyntaxGraft

namespace Graft

/-- What is put in prints as the representative does, with what its `wrapping` puts around it. -/
theorem Inserted.print_eq {representative target node : Node} {slot : Slot} {low high : Nat}
    (h : Inserted representative target slot low high node) :
    node.print = (slot.wrapping representative).spell representative.print := by
  obtain ⟨first, copy, -, -, hcopy, -, rfl⟩ := h
  have hprint : copy.print = representative.print := by
    rw [← Node.print_unnumbered, hcopy, Node.print_unnumbered]
  rw [Node.print_withAnchor, Wrapping.print_around, hprint]

/-- The edit at a replaced occurrence: its byte range, and the text of the representative as the
slot demands it. -/
def edit (representative : Node) (text : Text) (occurrence : Occurrence) : ByteRange × Text :=
  (occurrence.node.range, (occurrence.slot.wrapping representative).spell text)

/-- **A pass over parsed nodes is a splice** (`Spliced`).  The text of what it leaves is the text of
the node with an edit at each topmost match. -/
theorem spliced_visit {plan : Plan} {holds : Occurrence → Bool} {occurrence : Occurrence}
    {source : Text} (ready : Ready plan holds occurrence) (progress : Progress)
    (h : ∀ found ∈ occurrence.node.nodes, found.Intact source) :
    ∃ ordered : List Occurrence, ordered.Perm (occurrence.topmost holds) ∧
      Spliced occurrence.node.range.start
        (ordered.map (edit plan.representative plan.representative.print))
        (Text.slice source occurrence.node.range.start occurrence.node.range.stop)
        (visit plan occurrence.slot occurrence.node progress).1.print := by
  have hrange : (visit plan occurrence.slot occurrence.node progress).1.range
      = occurrence.node.range := by
    rw [Node.range, anchor_visit, Node.range]
  rw [← hrange]
  revert h
  -- Of a list of occurrences: the edits that each of the new nodes comes to.
  apply matchInduction plan holds
    (P := fun occurrence _ node _ => (∀ found ∈ occurrence.node.nodes, found.Intact source) →
      ∃ ordered : List Occurrence, ordered.Perm (occurrence.topmost holds) ∧
        Spliced node.range.start
          (ordered.map (edit plan.representative plan.representative.print))
          (Text.slice source node.range.start node.range.stop) node.print)
    (Q := fun occurrences _ nodes _ =>
      (∀ occurrence ∈ occurrences, ∀ found ∈ occurrence.node.nodes, found.Intact source) →
      ∃ edited : List (Node × List Occurrence), edited.map Prod.fst = nodes ∧
        (edited.flatMap Prod.snd).Perm (occurrences.flatMap (Occurrence.topmost holds)) ∧
        ∀ item ∈ edited, Spliced item.1.range.start
          (item.2.map (edit plan.representative plan.representative.print))
          (Text.slice source item.1.range.start item.1.range.stop) item.1.print)
    _ _ _ _ ready
  · -- a match: one edit, of the whole range
    intro occurrence progress clear hholds h
    obtain ⟨span, -, hanchor, hanchored⟩ := h occurrence.node occurrence.node.self_mem_nodes
    have hfits := hanchored.fits
    have hplace : (place plan occurrence.slot occurrence.node progress).1.range = span.range :=
      Node.range_of_anchor ((anchor_place _ _ _ _).trans hanchor)
    refine ⟨[occurrence], ?_, ?_⟩
    · rw [Occurrence.topmost_of_holds clear hholds]
    · rw [(place_inserted plan occurrence.slot occurrence.node progress).print_eq, hplace,
        List.map_singleton, edit, Node.range_of_anchor hanchor]
      exact Spliced.whole _ (Text.slice?_eq_some hfits.start hfits.stop hfits.ordered).2
  · -- a node that stays: the edits of its children, inside its own range
    intro occurrence progress node after clear hholds hkept heach h
    obtain ⟨edited, hnodes, hperm, hspliced⟩ := heach fun child hchild found hfound =>
      h found (Node.mem_nodes_of_child (Occurrence.node_mem_children hchild) hfound)
    obtain ⟨span, horigin, hanchor, hanchored⟩ := h occurrence.node occurrence.node.self_mem_nodes
    rw [← congrArg Header.origin hkept.header] at horigin
    rw [← hkept.anchors] at hanchored
    -- The printer goes by place, the pass by field: the edits of the children are rearranged.
    obtain ⟨ordered, hordered, hprint⟩ := Node.spliced_print horigin hnodes.symm hanchored
      fun item hitem _ => hspliced item hitem
    refine ⟨ordered.flatMap Prod.snd, ?_, ?_⟩
    · rw [Occurrence.topmost_of_not_holds hholds]
      exact (hordered.flatMap_right _).trans hperm
    · rw [Node.range_of_anchor ((congrArg Header.anchor hkept.header).trans hanchor),
        List.map_flatMap]
      exact hprint
  · intro progress _
    exact ⟨[], rfl, List.Perm.refl _, by simp⟩
  · intro occurrence rest progress node between nodes after hone hrest h
    obtain ⟨hfirst, hothers⟩ := List.forall_mem_cons.mp h
    obtain ⟨ordered, hperm, hspliced⟩ := hone hfirst
    obtain ⟨edited, hnodes, hpermRest, hsplicedRest⟩ := hrest hothers
    refine ⟨(node, ordered) :: edited, by rw [List.map_cons, hnodes], ?_,
      List.forall_mem_cons.mpr ⟨hspliced, hsplicedRest⟩⟩
    rw [List.flatMap_cons, List.flatMap_cons]
    exact hperm.append hpermRest

end Graft

/-! ### Whole texts -/

/-- Grafting (`Tree.graft`) a fragment into a parsed tree splices the source, from its first byte to
its last. -/
theorem Tree.spliced_print_graft {grammar : Grammar} {source : Text} {tree : Tree}
    (hwell : grammar.WellFormedAt source) (hparse : Tree.parse grammar source = .ok tree)
    (selector : Selector) (fragment : Fragment) :
    ∃ ordered : List Occurrence, ordered.Perm (selector.topmost tree.root) ∧
      Spliced 0
        (ordered.map (Graft.edit fragment.representative fragment.representative.print))
        source (tree.graft selector fragment).tree.print := by
  have hready := Graft.ready_of_distinct (numbered_of_parse hparse).distinct selector fragment
  obtain ⟨⟨range, hanchor, hfits⟩, hintact⟩ := intact_of_parse hwell hparse
  obtain ⟨ordered, hperm, hspliced⟩ := Graft.spliced_visit hready ⟨tree.nextId, 0⟩ hintact
  refine ⟨ordered, hperm, ?_⟩
  rw [Node.range_of_anchor hanchor] at hspliced
  have hsource : (tree.graft selector fragment).tree.source = source :=
    show tree.source = source from source_of_parse hparse
  have hroot : (tree.graft selector fragment).tree.root.anchor = some range :=
    (Graft.anchor_visit _ _ _ _).trans hanchor
  have hzero := Text.isBoundary_zero source
  have hsize := Text.isBoundary_size source
  -- What stands before and after the root stays.
  have hfront :=
    Spliced.prepend _ (Text.slice?_eq_some hzero hfits.start (Nat.zero_le _)).2 hspliced
  rw [Text.slice_append_slice hzero hfits.start hfits.stop (Nat.zero_le _) hfits.ordered] at hfront
  have hwhole := hfront.append (Text.slice?_eq_some hzero hfits.stop (Nat.zero_le _)).2
    (.keep _ (Text.slice source range.stop (Text.size source)))
  rw [List.append_nil, Text.slice_append_slice hzero hfits.stop hsize (Nat.zero_le _)
    hfits.stop.le_size, Text.slice_whole] at hwhole
  rw [Tree.print, hroot, hsource]
  show Spliced _ _ _ (if _ then _ else _)
  rw [if_pos hfits.stop.le_size]
  exact hwhole

/-- `replace` runs through when the selector compiles and both texts parse.  The cache is any that
compiling reaches, so the selector it hands out is the compiled one. -/
theorem exists_of_replace_eq_ok {grammar : Grammar} {mode : Mode} {cache after : SelectorCache}
    {selector replacement source : Text} {outcome : Outcome} (hcache : cache.Reached)
    (h : replace grammar mode cache selector replacement source = (.ok outcome, after)) :
    ∃ compiled fragment tree, Selector.compile selector = .ok compiled ∧
      Fragment.parse grammar replacement = .ok fragment ∧ Tree.parse grammar source = .ok tree ∧
      outcome.output = (tree.graft compiled fragment).tree.print ∧
      outcome.replacements = (tree.graft compiled fragment).replaced := by
  unfold replace at h
  split at h
  · cases (Prod.mk.inj h).1
  next compiled cache' hcompile =>
    split at h
    · cases (Prod.mk.inj h).1
    next fragment hfragment =>
      unfold Selector.replace at h
      cases htree : Tree.parse grammar source with
      | error error =>
        rw [htree] at h
        cases (Prod.mk.inj h).1
      | ok tree =>
        rw [htree] at h
        obtain rfl := Except.ok.inj (Prod.mk.inj h).1
        cases mode
        exact ⟨compiled.selector, fragment, tree, hcache.compile_of_ok hcompile, hfragment, rfl,
          rfl, rfl⟩

/-- **The splice law.**  Where replacing succeeds, and the grammar's trees of both texts are well
formed, the output is the source with the byte range of each topmost match replaced: by the text of
the representative, by this text and a semicolon, or by this text in parentheses, as the slot of the
match demands.  The edits come in the order of the text, and there are as many as replacements are
reported. -/
theorem replace_splices {grammar : Grammar} {mode : Mode} {cache after : SelectorCache}
    {selector replacement source : Text} {outcome : Outcome} (hcache : cache.Reached)
    (hsource : grammar.WellFormedAt source) (hreplacement : grammar.WellFormedAt replacement)
    (h : replace grammar mode cache selector replacement source = (.ok outcome, after)) :
    ∃ compiled fragment tree text, ∃ ordered : List Occurrence,
      Selector.compile selector = .ok compiled ∧
      Fragment.parse grammar replacement = .ok fragment ∧
      Tree.parse grammar source = .ok tree ∧
      fragment.representative.sourceText? = some text ∧
      ordered.Perm (compiled.topmost tree.root) ∧
      (∀ occurrence ∈ ordered,
        occurrence.node.span?.map Span.range = some occurrence.node.range) ∧
      ordered.Pairwise (fun occurrence other =>
        occurrence.node.range.stop ≤ other.node.range.start) ∧
      Spliced 0
        (ordered.map fun occurrence => (occurrence.node.range,
          (occurrence.slot.wrapping fragment.representative).spell text))
        source outcome.output ∧
      outcome.replacements = ordered.length := by
  obtain ⟨compiled, fragment, tree, hcompile, hfragment, hparse, houtput, hreplacements⟩ :=
    exists_of_replace_eq_ok hcache h
  obtain ⟨ordered, hperm, hspliced⟩ := Tree.spliced_print_graft hsource hparse compiled fragment
  obtain ⟨donor, hdonor, hmem⟩ := Fragment.exists_of_parse hfragment
  have htext : fragment.representative.sourceText? = some fragment.representative.print := by
    apply Node.sourceText?_eq_print
    intro found hfound
    exact (Tree.intact_of_parse hreplacement hdonor).2 found (Node.mem_nodes_trans hmem hfound)
  refine ⟨compiled, fragment, tree, fragment.representative.print, ordered, hcompile, hfragment,
    hparse, htext, hperm, ?_, ?_, ?_, ?_⟩
  · -- a match is a node of the parsed source, whose anchor is its span
    intro occurrence hoccurrence
    have hmem := List.mem_of_mem_filter (hperm.mem_iff.mp hoccurrence)
    obtain ⟨span, horigin, hanchor, -⟩ :=
      (Tree.intact_of_parse hsource hparse).2 occurrence.node (List.mem_map_of_mem hmem)
    rw [Node.span?, horigin, Node.range_of_anchor hanchor]
    rfl
  · exact List.pairwise_map.mp hspliced.inOrder.2
  · rw [houtput]
    exact hspliced
  · have hready :=
      Graft.ready_of_distinct (Tree.numbered_of_parse hparse).distinct compiled fragment
    rw [hreplacements, hperm.length_eq]
    exact (Graft.replaced_visit hready ⟨tree.nextId, 0⟩).trans (Nat.zero_add _)

/-- The outer call gives way to a sum in parentheses. -/
theorem replace_splices_outer_call :
    SelectorCache.Reached {} ∧ Sample.grammar.WellFormedAt Sample.product ∧
      Sample.grammar.WellFormedAt Sample.sum ∧
      ∃ outcome after, replace Sample.grammar .selector {} Sample.calls Sample.sum Sample.product
          = (.ok outcome, after) ∧
        outcome.output = "a * (c + d)".toList ∧
        ∃ edits, Spliced 0 edits Sample.product outcome.output ∧ edits.length = 1 := by
  refine ⟨.empty, Sample.wellFormedAt_product, Sample.wellFormedAt_sum, _, _, rfl, rfl, ?_⟩
  obtain ⟨_, _, _, _, ordered, -, -, -, -, -, -, -, hspliced, hlength⟩ :=
    @replace_splices _ .selector _ _ Sample.calls _ _ _ .empty Sample.wellFormedAt_product
      Sample.wellFormedAt_sum rfl
  exact ⟨_, hspliced, (List.length_map _).trans hlength.symm⟩

end SyntaxGraft
