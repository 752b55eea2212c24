import SyntaxGraft.Proofs.Parse.Numbering
/-!
# What was parsed prints verbatim

A parser may hand over a tree whose nodes overlap or reach out of their parents, and the conversion
drops a child when a token takes its field.  None of that shows when the tree is printed: as long as
every range is one of whole characters of the text, every node prints as the bytes of its span, and
the tree as the whole text (`Tree.parsed_prints_verbatim`).  The reason is that each node stands at
its own span (`Node.InPlace`), so whatever the printer puts over an anchor is what was there, and
what it passes over is copied with the text around it.

A copy of such a node has the same spans below it, and the anchor of the copy itself is not looked
at when it is printed.
-/

namespace SyntaxGraft

/-! ### Nodes in their places -/

/-- The row of one of the `namedTrees` is one of the `rows`. -/
theorem ParseTree.row_mem_rows {tree found : ParseTree} (h : found ∈ tree.namedTrees) :
    found.row ∈ tree.rows := by
  have hlist : ∀ trees : List ParseTree, rowsOfList trees = trees.flatMap rows := by
    intro trees
    induction trees with
    | nil => rfl
    | cons first rest ih => rw [rowsOfList, ih, List.flatMap_cons]
  induction tree using ParseTree.childrenInduction with
  | step row children ih =>
    rw [rows, hlist, List.mem_cons, List.mem_flatMap]
    rcases mem_namedTrees_iff.mp h with rfl | ⟨child, hchild, -, hfound⟩
    · exact Or.inl rfl
    · exact Or.inr ⟨child, hchild, ih child hchild hfound⟩

/-- Where the ranges fit, every node of a converted tree is in its place: it has origin and anchor
from the row at its number, whether or not it is where a child should be. -/
theorem Parse.inPlace_of_mem_nodes {text : Text} {tree : ParseTree} (next : Nat)
    (hfits : ∀ row ∈ tree.rows, row.range.FitsIn text) {node : Node}
    (h : node ∈ (nodeOf text (tree, next)).nodes) : node.InPlace text := by
  obtain ⟨⟨found, number⟩, hfound, rfl⟩ := exists_tree_of_mem_nodes h
  have hrow := ParseTree.row_mem_rows (List.fst_mem_of_mem_zipIdx hfound)
  have hheader := header_nodeOf text (found, number)
  exact ⟨found.row.spanIn text, congrArg Header.origin hheader, congrArg Header.anchor hheader,
    hfits found.row hrow⟩

namespace Node

variable {text : Text} {node copy : Node}

/-- A copy is `InPlace` where the original is: only the identity of the header is another. -/
theorem InPlace.of_unnumbered_eq (h : node.InPlace text)
    (hcopy : copy.unnumbered = node.unnumbered) : copy.InPlace text := by
  obtain ⟨span, horigin, hanchor, hfits⟩ := h
  have hheader : { copy.header with id := 0 } = { node.header with id := 0 } := by
    rw [← header_unnumbered, hcopy, header_unnumbered]
  exact ⟨span, (congrArg Header.origin hheader).trans horigin,
    (congrArg Header.anchor hheader).trans hanchor, hfits⟩

/-- Copies of nodes in their places (`Node.InPlace`) are in their places, down to the last node. -/
theorem inPlace_renumber (h : ∀ found ∈ node.nodes, found.InPlace text) (next : Nat) :
    ∀ found ∈ (node.renumber next).1.nodes, found.InPlace text := by
  intro found hfound
  obtain ⟨source, hsource, hsame⟩ :=
    exists_mem_nodes_of_unnumbered_eq (unnumbered_renumber node next) hfound
  exact (h source hsource).of_unnumbered_eq hsame.symm

/-- What is `InPlace` down to the last node prints its span, and so does each node of it. -/
theorem printsSpan_of_inPlace (h : ∀ found ∈ node.nodes, found.InPlace text) :
    ∀ found ∈ node.nodes, ∃ span, found.PrintsSpan text span := by
  intro found hfound
  obtain ⟨span, horigin, -, hfits⟩ := h found hfound
  refine ⟨span, printsSpan horigin hfits ?_⟩
  intro child hchild below hbelow
  exact h below (mem_nodes_trans hfound (mem_nodes_of_child hchild hbelow))

theorem PrintsSpan.withAnchor {span : Span} (h : node.PrintsSpan text span)
    (anchor : Option ByteRange) : (node.withAnchor anchor).PrintsSpan text span := by
  obtain ⟨header, fields⟩ := node
  exact ⟨h.origin, h.cuts, h.bytes⟩

/-- A copy prints the same span (`Node.PrintsSpan`), wherever it is put, and so does all that is
below it. -/
theorem printsSpan_copy (h : ∀ found ∈ node.nodes, found.InPlace text) {span : Span}
    (hspan : node.PrintsSpan text span) (next : Nat) (anchor : Option ByteRange) :
    ((node.renumber next).1.withAnchor anchor).PrintsSpan text span ∧
      ∀ below ∈ ((node.renumber next).1.withAnchor anchor).nodes,
        ∃ span, below.PrintsSpan text span := by
  have hcopies := printsSpan_of_inPlace (inPlace_renumber h next)
  have hcopy : (node.renumber next).1.PrintsSpan text span := by
    -- `hcopies` has some span for the copy; it is that of the original, by their headers.
    obtain ⟨other, hother⟩ := hcopies _ (self_mem_nodes _)
    have hsame : some (Origin.mk text other) = some ⟨text, span⟩ := by
      rw [← hother.origin, ← hspan.origin, header_renumber]
    obtain rfl := (Origin.mk.inj (Option.some.inj hsame)).2
    exact hother
  refine ⟨hcopy.withAnchor anchor, ?_⟩
  intro below hbelow
  -- The new anchor is that of the copy alone; below, nothing is changed.
  rcases mem_nodes_iff.mp hbelow with rfl | ⟨child, hchild, hbelow⟩
  · exact ⟨span, hcopy.withAnchor anchor⟩
  · exact hcopies below (mem_nodes_of_child hchild hbelow)

end Node

/-! ### Parsed trees -/

/-- A tree that prints its root's span where the root stands prints its whole text: `Tree.print` has
the text before and after the root from the source. -/
theorem Tree.print_eq_source {tree : Tree} {span : Span}
    (hanchor : tree.root.anchor = some span.range) (hfits : span.range.FitsIn tree.source)
    (hroot : tree.root.PrintsSpan tree.source span) : tree.print = tree.source := by
  have hmiddle : tree.root.print = Text.slice tree.source span.start span.stop := by
    rw [Text.slice, hroot.bytes]
    rfl
  have hfront := Text.slice_append_slice (Text.isBoundary_zero tree.source) hfits.start hfits.stop
    (Nat.zero_le _) hfits.ordered
  have hwhole := Text.slice_append_slice (Text.isBoundary_zero tree.source) hfits.stop
    (Text.isBoundary_size tree.source) (Nat.zero_le _) hfits.stop.le_size
  rw [print, hanchor]
  show (if span.range.stop ≤ Text.size tree.source then _ else _) = _
  rw [if_pos hfits.stop.le_size, hmiddle]
  exact (congrArg (· ++ _) hfront).trans (hwhole.trans (Text.slice_whole _))

/-- **What was parsed prints verbatim.**  Where the parse tree of a text is free of faults and its
ranges are of whole characters of the text, the text parses to a tree that prints as the text,
what stands before and after the root included.  Every node prints as the bytes of its span, and so
does every copy of it with fresh identities, whatever its anchor, and every node of the copy; no cut
that the printer makes on the way is out of range or inside a character. -/
theorem Tree.parsed_prints_verbatim {grammar : Grammar} {text : Text} {parsed : ParseTree}
    (hparsed : grammar text = some parsed) (hfault : Parse.fault? text parsed = none)
    (hfits : ∀ row ∈ parsed.rows, row.range.FitsIn text) :
    ∃ tree, Tree.parse grammar text = .ok tree ∧
      tree.print = text ∧
      (∃ range, tree.root.anchor = some range ∧ range.FitsIn text) ∧
      ∀ node ∈ tree.root.nodes, ∃ span,
        node.PrintsSpan text span ∧
        ∀ next anchor, let copy := (node.renumber next).1.withAnchor anchor
          copy.PrintsSpan text span ∧
          ∀ below ∈ copy.nodes, ∃ span, below.PrintsSpan text span := by
  set tree := Tree.ofParseTree text parsed
  have hplace : ∀ node ∈ tree.root.nodes, node.InPlace text :=
    fun node hnode => Parse.inPlace_of_mem_nodes 0 hfits hnode
  have hprints := Node.printsSpan_of_inPlace hplace
  obtain ⟨range, horigin, hanchor, hrange⟩ := hplace tree.root tree.root.self_mem_nodes
  refine ⟨tree, Tree.parse_eq_ok_iff.mpr ⟨parsed, hparsed, hfault, rfl⟩, ?_,
    ⟨range.range, hanchor, hrange⟩, ?_⟩
  · refine Tree.print_eq_source hanchor hrange (Node.printsSpan horigin hrange ?_)
    intro child hchild found hfound
    exact hplace found (Node.mem_nodes_of_child hchild hfound)
  · intro node hnode
    obtain ⟨span, hspan⟩ := hprints node hnode
    refine ⟨span, hspan, fun next anchor => Node.printsSpan_copy ?_ hspan next anchor⟩
    intro found hfound
    exact hplace found (Node.mem_nodes_trans hnode hfound)

namespace Sample

/-- A sum between a blank and a semicolon. -/
def odd : Text := " é+b;".toList

/-- A tree for it in which the sign pushes the left operand out of its field, the right operand is
there twice, once reaching back over the sign, and a third operand reaches beyond the sum. -/
def oddTree : ParseTree :=
  named "program" none 1 5 [
    named "binary_expression" none 1 5 [
      named "identifier" (some "left") 1 3 [],
      token "+" (some "left") 3 4,
      named "identifier" (some "right") 4 5 [],
      named "identifier" (some "right") 3 5 [],
      named "identifier" (some "other") 0 6 []]]

end Sample

/-- An operand is lost and two are passed over, and still the tree prints as its text, and a copy of
the sum in another place as its span. -/
theorem Tree.parsed_prints_verbatim_odd :
    ∃ tree, Tree.parse (fun _ => some Sample.oddTree) Sample.odd = .ok tree ∧
      tree.size = 5 ∧ Sample.oddTree.namedTrees.length = 6 ∧ tree.print = " é+b;".toList ∧
      ∃ sum, tree.root.children = [sum] ∧
        ((sum.renumber 7).1.withAnchor (some ⟨0, 1⟩)).print = "é+b".toList := by
  obtain ⟨tree, hparse, hprint, -, hnodes⟩ :=
    @Tree.parsed_prints_verbatim (fun _ => some Sample.oddTree) Sample.odd Sample.oddTree rfl
      (by decide +kernel) (by decide +kernel)
  obtain rfl : Tree.ofParseTree Sample.odd Sample.oddTree = tree := Except.ok.inj hparse
  obtain ⟨sum, hchildren, hrange⟩ :
      ∃ sum, (Tree.ofParseTree Sample.odd Sample.oddTree).root.children = [sum] ∧
        sum.span?.map Span.range = some ⟨1, 5⟩ := ⟨_, rfl, rfl⟩
  obtain ⟨span, hspan, hcopies⟩ := hnodes sum
    (Node.mem_nodes_of_child (hchildren ▸ List.mem_cons_self) sum.self_mem_nodes)
  have hbytes := (hcopies 7 (some ⟨0, 1⟩)).1.bytes
  rw [Node.span?, hspan.origin] at hrange
  obtain ⟨hstart, hstop⟩ := ByteRange.mk.inj (Option.some.inj hrange)
  rw [hstart, hstop] at hbytes
  exact ⟨_, hparse, by decide +kernel, by decide +kernel, hprint, sum, hchildren,
    Option.some.inj (hbytes.symm.trans (by decide +kernel))⟩

end SyntaxGraft
