import SyntaxGraft.Proofs.Text.Splice
import SyntaxGraft.Proofs.Tree.Copy
/-!
# Anchors and what they mean to the printer

The printer puts the text of each child over the child's anchor.  That works out when a node is
settled (`Node.Settled`): a parsed node's children have anchors inside its span that do not meet,
and a node that was made is one of the two wrappers.

* `Node.Settled.printsEachChild`: a settled node prints each child exactly once, in its place.
* `Node.print?_eq_some`: below settled nodes nothing goes wrong.  The printer itself never fails,
  so this is said of `Node.print?`, which fails where the printer would cut a text out of range or
  inside a character, pass over a child, or find no rule for a node without text.
-/

namespace SyntaxGraft

/-! ### Settled nodes -/

namespace ByteRange

/-- Neither range reaches into the `other`. -/
def Apart (range other : ByteRange) : Prop :=
  range.stop ≤ other.start ∨ other.stop ≤ range.start

/-- The range has some characters of a node's text, and none outside the node's span. -/
structure InsideOf (range : ByteRange) (origin : Origin) : Prop where
  fits : range.FitsIn origin.source
  nonempty : range.start < range.stop
  start : origin.span.start ≤ range.start
  stop : range.stop ≤ origin.span.stop

end ByteRange

/-- The span is one of the text, and the anchors are ranges inside it that do not meet. -/
structure Anchored (origin : Origin) (anchors : List (Option ByteRange)) : Prop where
  fits : origin.span.range.FitsIn origin.source
  inside : ∀ anchor ∈ anchors, ∃ range, anchor = some range ∧ range.InsideOf origin
  apart : anchors.Pairwise fun anchor other =>
    ∀ range ∈ anchor, ∀ range' ∈ other, range.Apart range'

namespace Node

/-- The printer finds a place for every child: between the anchors of a parsed node, or in one of
the two wrappers. -/
def Settled (node : Node) : Prop :=
  match node.header.origin with
  | some origin => Anchored origin (node.children.map anchor)
  | none => node.kind ∈ Kind.wrapperKinds ∧
      ∃ expression, node.fields = [.mk Kind.expressionField (.node expression)]

theorem settled_of_origin {node : Node} {origin : Origin} (h : node.header.origin = some origin) :
    node.Settled ↔ Anchored origin (node.children.map anchor) := by
  rw [Settled, h]

theorem settled_of_made {node : Node} (h : node.header.origin = none) :
    node.Settled ↔ node.kind ∈ Kind.wrapperKinds ∧
      ∃ expression, node.fields = [.mk Kind.expressionField (.node expression)] := by
  rw [Settled, h]

/-- A field list with the outline of a wrapper's (`Field.outline`) is one. -/
theorem exists_expression_of_outline_eq {fields : List Field} {expression : Node}
    (h : fields.map Field.outline = [Field.mk Kind.expressionField (.node expression)].map
      Field.outline) :
    ∃ other, fields = [.mk Kind.expressionField (.node other)] := by
  obtain ⟨⟨name, value⟩, rfl, houtline⟩ := List.map_eq_singleton_iff.mp h
  obtain ⟨hname, hvalue⟩ := Prod.mk.inj houtline
  cases value with
  | node other => exact ⟨other, by rw [← (show name = Kind.expressionField from hname)]⟩
  | nodes children => cases hvalue
  | scalar value => cases hvalue

/-- What settles a node is its kind, its origin, the names and forms of its fields, and the anchors
of its children. -/
theorem Settled.transfer {node other : Node} (h : node.Settled) (hkind : other.kind = node.kind)
    (horigin : other.header.origin = node.header.origin)
    (houtline : other.fields.map Field.outline = node.fields.map Field.outline)
    (hanchors : other.children.map anchor = node.children.map anchor) : other.Settled := by
  cases hnode : node.header.origin with
  | some origin =>
    rw [settled_of_origin hnode] at h
    rw [settled_of_origin (horigin.trans hnode), hanchors]
    exact h
  | none =>
    obtain ⟨hwrapper, expression, hfields⟩ := (settled_of_made hnode).mp h
    rw [hfields] at houtline
    exact (settled_of_made (horigin.trans hnode)).mpr
      ⟨hkind ▸ hwrapper, exists_expression_of_outline_eq houtline⟩

/-- A copy (`Node.unnumbered`) of a settled node is settled. -/
theorem Settled.of_unnumbered_eq {node copy : Node} (h : node.Settled)
    (hcopy : copy.unnumbered = node.unnumbered) : copy.Settled := by
  have hanchors : ∀ node : Node,
      node.unnumbered.children.map anchor = node.children.map anchor := by
    intro node
    rw [children_unnumbered, List.map_map]
    exact List.map_congr_left fun child _ => child.anchor_unnumbered
  have horigin : ∀ node : Node, node.unnumbered.header.origin = node.header.origin := by
    intro node
    rw [header_unnumbered]
  refine h.transfer ?_ ?_ ?_ ?_
  · rw [← kind_unnumbered, hcopy, kind_unnumbered]
  · rw [← horigin, hcopy, horigin]
  · rw [← outline_fields_unnumbered, hcopy, outline_fields_unnumbered]
  · rw [← hanchors, hcopy, hanchors]

theorem Settled.withAnchor {node : Node} (h : node.Settled) (range : Option ByteRange) :
    (node.withAnchor range).Settled :=
  h.transfer rfl rfl rfl rfl

theorem settled_wrapper {kind : String} (h : kind ∈ Kind.wrapperKinds) (id : Nat)
    (expression : Node) : (wrapper kind id expression).Settled :=
  (settled_of_made rfl).mpr ⟨h, expression, rfl⟩

/-! ### Printing a settled node -/

/-- The byte range of the slot, where there is one; an empty range where there is none. -/
def range (node : Node) : ByteRange :=
  node.anchor.getD ⟨0, 0⟩

theorem range_of_anchor {node : Node} {range : ByteRange} (h : node.anchor = some range) :
    node.range = range := by
  rw [Node.range, h]
  rfl

/-- The printer collects its pieces field by field, which is child by child. -/
theorem pieces_printFields (fields : List Field) :
    (printFields fields).flatMap (fun field => field.2.pieces)
      = (Fields.children fields).map fun child => ⟨child.anchor, child.print⟩ := by
  induction fields with
  | nil => rfl
  | cons field rest ih =>
    obtain ⟨name, value⟩ := field
    cases value with
    | node child => rw [printFields, List.flatMap_cons, ih]; rfl
    | nodes children =>
      rw [printFields, List.flatMap_cons, ih, printNodes_eq, Fields.children_cons, List.map_append]
      rfl
    | scalar value => rw [printFields, List.flatMap_cons, ih]; rfl

/-- A parsed node prints its text with each anchored child over its anchor. -/
theorem print_of_origin {node : Node} {origin : Origin} (h : node.header.origin = some origin) :
    node.print = Printing.splice origin.source origin.span.stop origin.span.start
      (Printing.sortByStart (node.children.filterMap fun child =>
        child.anchor.map fun range => (range, child.print))) := by
  obtain ⟨header, fields⟩ := node
  have horigin : header.origin = some origin := h
  rw [print, Printing.assemble, horigin]
  show Printing.splice _ _ _ (Printing.sortByStart (((printFields fields).flatMap
    fun field => field.2.pieces).filterMap _)) = _
  rw [pieces_printFields, List.filterMap_map]
  rfl

/-- A wrapper prints its expression with a mark around it: a `;` behind, or parentheses. -/
theorem print_wrapper {node expression : Node} (h : node.header.origin = none)
    (hkind : node.kind ∈ Kind.wrapperKinds)
    (hfields : node.fields = [.mk Kind.expressionField (.node expression)]) :
    node.print = expression.print ++ [';'] ∨ node.print = '(' :: expression.print ++ [')'] := by
  obtain ⟨⟨id, kind, origin, anchor⟩, fields⟩ := node
  obtain rfl : origin = none := h
  obtain rfl : fields = [.mk Kind.expressionField (.node expression)] := hfields
  rcases List.mem_cons.mp hkind with hkind | hkind
  · obtain rfl : kind = "ExpressionStatement" := hkind
    exact Or.inl rfl
  · obtain rfl : kind = "ParenthesizedExpression" := List.mem_singleton.mp hkind
    exact Or.inr rfl

/-- The text of each child stands once in the text of the node: over the child's place in the span
of a parsed node, and with a mark around it in a wrapper. -/
def PrintsEachChild (node : Node) : Prop :=
  match node.header.origin with
  | some origin =>
    ∃ ordered : List Node, ordered.Perm node.children ∧
      Spliced origin.span.start (ordered.map fun child => (child.range, child.print))
        (Text.slice origin.source origin.span.start origin.span.stop) node.print
  | none =>
    ∃ expression, node.children = [expression] ∧
      (node.print = expression.print ++ [';'] ∨ node.print = '(' :: expression.print ++ [')'])

end Node

namespace Anchored

variable {origin : Origin} {α : Type} {items : List α} {node : α → Node}

/-- Each of the items has an anchor, so `Node.range` is that anchor. -/
theorem insideOf_range (h : Anchored origin (items.map fun item => (node item).anchor)) {item : α}
    (hitem : item ∈ items) :
    (node item).anchor = some (node item).range ∧ (node item).range.InsideOf origin := by
  obtain ⟨range, hrange, hinside⟩ :=
    h.inside (node item).anchor (List.mem_map.mpr ⟨item, hitem, rfl⟩)
  rw [Node.range_of_anchor hrange]
  exact ⟨hrange, hinside⟩

/-- Anchored nodes come out of `sortByStart` one after the other, and all of them do. -/
theorem exists_order (h : Anchored origin (items.map fun item => (node item).anchor))
    (text : α → Text) :
    ∃ ordered : List α, ordered.Perm items ∧
      (∀ item ∈ ordered, (node item).range.InsideOf origin) ∧
      ordered.Pairwise (fun item other => (node item).range.stop ≤ (node other).range.start) ∧
      Printing.sortByStart (items.map fun item => ((node item).range, text item))
        = ordered.map fun item => ((node item).range, text item) := by
  have hnonempty : ∀ item ∈ items, (node item).range.start < (node item).range.stop :=
    fun item hitem => (h.insideOf_range hitem).2.nonempty
  have hapart : items.Pairwise fun item other => (node item).range.Apart (node other).range := by
    refine (List.pairwise_map.mp h.apart).imp_of_mem ?_
    intro item other hitem hother hapart
    exact hapart _ (h.insideOf_range hitem).1 _ (h.insideOf_range hother).1
  obtain ⟨ordered, hperm, hinOrder, hsort⟩ :=
    Printing.exists_sortByStart_eq items (fun item => (node item).range) text hnonempty hapart
  exact ⟨ordered, hperm, fun item hitem => (h.insideOf_range (hperm.mem_iff.mp hitem)).2, hinOrder,
    hsort⟩

/-- No item is left out for want of an anchor. -/
theorem filterMap_anchor (h : Anchored origin (items.map fun item => (node item).anchor))
    (text : α → Text) :
    (items.filterMap fun item => (node item).anchor.map fun range => (range, text item))
      = items.map fun item => ((node item).range, text item) := by
  rw [← List.filterMap_eq_map]
  apply List.filterMap_congr
  intro item hitem
  rw [(h.insideOf_range hitem).1]
  rfl

end Anchored

/-- **A parsed node prints its span with its children in place.**  Where the text of each child is
itself a splice of the child's place, the text of the node is the splice of all these edits. -/
theorem Node.spliced_print {α : Type} {parent : Node} {origin : Origin} {items : List α}
    {node : α → Node} {inner : α → List (ByteRange × Text)}
    (horigin : parent.header.origin = some origin) (hchildren : parent.children = items.map node)
    (h : Anchored origin (parent.children.map anchor))
    (spliced : ∀ item ∈ items, (node item).range.FitsIn origin.source →
      Spliced (node item).range.start (inner item)
        (Text.slice origin.source (node item).range.start (node item).range.stop)
        (node item).print) :
    ∃ ordered : List α, ordered.Perm items ∧
      Spliced origin.span.start (ordered.flatMap inner)
        (Text.slice origin.source origin.span.start origin.span.stop) parent.print := by
  rw [hchildren, List.map_map] at h
  obtain ⟨ordered, hperm, hinside, hinOrder, hsort⟩ := h.exists_order fun item => (node item).print
  refine ⟨ordered, hperm, ?_⟩
  rw [print_of_origin horigin, hchildren, List.filterMap_map]
  show Spliced _ _ _ (Printing.splice _ _ _ (Printing.sortByStart (items.filterMap fun item =>
    (node item).anchor.map fun range => (range, (node item).print))))
  rw [h.filterMap_anchor, hsort]
  exact Printing.spliced_splice h.fits.start h.fits.stop h.fits.ordered
    (fun item hitem => (hinside item hitem).fits)
    (fun item hitem => ⟨(hinside item hitem).start, (hinside item hitem).stop⟩) hinOrder
    fun item hitem => spliced item (hperm.mem_iff.mp hitem) (hinside item hitem).fits

/-- **Every child once.**  The case of `Node.spliced_print` where the children are the edits. -/
theorem Node.Settled.printsEachChild {node : Node} (h : node.Settled) : node.PrintsEachChild := by
  unfold PrintsEachChild
  split
  next origin horigin =>
    -- Each child is one edit, over its own place.
    have hwhole : ∀ child ∈ node.children, child.range.FitsIn origin.source →
        Spliced child.range.start [(child.range, child.print)]
          (Text.slice origin.source child.range.start child.range.stop) child.print :=
      fun child _ hfits =>
        Spliced.whole _ (Text.slice?_eq_some hfits.start hfits.stop hfits.ordered).2
    obtain ⟨ordered, hperm, hspliced⟩ := spliced_print horigin (List.map_id' node.children).symm
      ((settled_of_origin horigin).mp h) hwhole
    rw [← List.map_eq_flatMap] at hspliced
    exact ⟨ordered, hperm, hspliced⟩
  next hmade =>
    obtain ⟨hkind, expression, hfields⟩ := (settled_of_made hmade).mp h
    refine ⟨expression, ?_, print_wrapper hmade hkind hfields⟩
    rw [children, hfields]
    rfl

/-! ### Printing with every step checked -/

namespace Printing

/-- The splice where nothing may go wrong: every cut is a slice of the source, and no text is passed
over. -/
def splice? (source : Text) (stop : Nat) : Nat → List (ByteRange × Text) → Option Text
  | cursor, [] => Text.slice? source cursor stop
  | cursor, (range, text) :: rest =>
    if range.start < cursor || stop < range.stop then none
    else do
      let gap ← Text.slice? source cursor range.start
      let tail ← splice? source stop range.stop rest
      return gap ++ text ++ tail

/-- The text of a node, when all its pieces have a place: those of a parsed node by their anchors,
and the one of a wrapper by the wrapper's kind. -/
def assemble? (header : Header) (fields : List (String × PrintedValue)) : Option Text :=
  match header.origin with
  | some origin =>
    let pieces := fields.flatMap fun field => field.2.pieces
    let anchored := pieces.filterMap fun piece => piece.anchor.map fun range => (range, piece.text)
    if pieces.all fun piece => piece.anchor.isSome then
      splice? origin.source origin.span.stop origin.span.start (sortByStart anchored)
    else none
  | none =>
    match fields with
    | [(name, .one _)] =>
      if name = Kind.expressionField ∧ header.kind ∈ Kind.wrapperKinds then
        some (synthesize header.kind fields)
      else none
    | _ => none

/-- Ranges of whole characters, one after the other between the cursor and the end, leave nothing to
go wrong. -/
theorem splice?_eq_some {α : Type} {source : Text} {stop cursor : Nat} {items : List α}
    {range : α → ByteRange} (text : α → Text) (hcursor : Text.IsBoundary source cursor)
    (hstop : Text.IsBoundary source stop) (hle : cursor ≤ stop)
    (fits : ∀ item ∈ items, (range item).FitsIn source)
    (within : ∀ item ∈ items, cursor ≤ (range item).start ∧ (range item).stop ≤ stop)
    (inOrder : items.Pairwise fun item other => (range item).stop ≤ (range other).start) :
    splice? source stop cursor (items.map fun item => (range item, text item))
      = some (splice source stop cursor (items.map fun item => (range item, text item))) := by
  induction items generalizing cursor with
  | nil => exact (Text.slice?_eq_some hcursor hstop hle).1
  | cons item rest ih =>
    obtain ⟨hfits, hfitsRest⟩ := List.forall_mem_cons.mp fits
    obtain ⟨⟨hstart, hend⟩, hwithin⟩ := List.forall_mem_cons.mp within
    obtain ⟨hfirst, hinOrder⟩ := List.pairwise_cons.mp inOrder
    have hrest := ih hfits.stop hend hfitsRest
      (fun other hother => ⟨hfirst other hother, (hwithin other hother).2⟩) hinOrder
    have hskip := not_skipped hstart hend
    rw [List.map_cons, splice?, if_neg hskip, splice, if_neg hskip, hrest,
      (Text.slice?_eq_some hcursor hfits.start hstart).1]
    rfl

end Printing

namespace Node

mutual

/-- The text of a node, with every step checked (`none` where one goes wrong). -/
def print? : Node → Option Text
  | .mk header fields => (printFields? fields).bind (Printing.assemble? header)

/-- The fields, printed with every step checked. -/
def printFields? : List Field → Option (List (String × PrintedValue))
  | [] => some []
  | .mk name (.node child) :: rest => do
    let text ← child.print?
    let rest ← printFields? rest
    return (name, .one ⟨child.anchor, text⟩) :: rest
  | .mk name (.nodes children) :: rest => do
    let pieces ← printNodes? children
    let rest ← printFields? rest
    return (name, .many pieces) :: rest
  | .mk name (.scalar _) :: rest => do
    let rest ← printFields? rest
    return (name, .none) :: rest

/-- A sequence of nodes, printed with every step checked. -/
def printNodes? : List Node → Option (List Piece)
  | [] => some []
  | node :: rest => do
    let text ← node.print?
    let rest ← printNodes? rest
    return ⟨node.anchor, text⟩ :: rest

end

theorem printNodes?_eq_some {nodes : List Node}
    (h : ∀ node ∈ nodes, node.print? = some node.print) :
    printNodes? nodes = some (printNodes nodes) := by
  induction nodes with
  | nil => rfl
  | cons node rest ih =>
    obtain ⟨hnode, hrest⟩ := List.forall_mem_cons.mp h
    rw [printNodes?, hnode, ih hrest]
    rfl

theorem printFields?_eq_some {fields : List Field}
    (h : ∀ child ∈ Fields.children fields, child.print? = some child.print) :
    printFields? fields = some (printFields fields) := by
  induction fields with
  | nil => rfl
  | cons field rest ih =>
    obtain ⟨name, value⟩ := field
    have hvalue : ∀ child ∈ value.children, child.print? = some child.print := fun child hchild =>
      h child (List.mem_append_left _ hchild)
    have hrest := ih fun child hchild => h child (List.mem_append_right _ hchild)
    cases value with
    | node child => rw [printFields?, hvalue child List.mem_cons_self, hrest]; rfl
    | nodes children =>
      have hchildren : printNodes? children = some (printNodes children) :=
        printNodes?_eq_some hvalue
      rw [printFields?, hchildren, hrest]
      rfl
    | scalar value => rw [printFields?, hrest]; rfl

/-- Nothing goes wrong at a settled node (`Printing.assemble?`), once its children are printed. -/
theorem Settled.assemble?_eq_some {header : Header} {fields : List Field}
    (h : (Node.mk header fields).Settled) :
    Printing.assemble? header (printFields fields)
      = some (Printing.assemble header (printFields fields)) := by
  cases horigin : header.origin with
  | some origin =>
    have hanchored : Anchored origin ((Fields.children fields).map anchor) :=
      (@settled_of_origin (.mk header fields) origin horigin).mp h
    obtain ⟨ordered, hperm, hinside, hinOrder, hsort⟩ := hanchored.exists_order Node.print
    -- Every child has an anchor, so no piece is left out.
    have hall : ((Fields.children fields).map fun child =>
        (⟨child.anchor, child.print⟩ : Piece)).all (fun piece => piece.anchor.isSome) = true := by
      rw [List.all_map, List.all_eq_true]
      intro child hchild
      show child.anchor.isSome = true
      rw [(hanchored.insideOf_range hchild).1]
      rfl
    unfold Printing.assemble? Printing.assemble
    simp only [horigin, pieces_printFields, List.filterMap_map]
    rw [if_pos hall]
    show Printing.splice? _ _ _ (Printing.sortByStart ((Fields.children fields).filterMap
      fun child => child.anchor.map fun range => (range, child.print)))
        = some (Printing.splice _ _ _ (Printing.sortByStart ((Fields.children fields).filterMap
          fun child => child.anchor.map fun range => (range, child.print))))
    rw [hanchored.filterMap_anchor, hsort]
    exact Printing.splice?_eq_some Node.print hanchored.fits.start hanchored.fits.stop
      hanchored.fits.ordered (fun child hchild => (hinside child hchild).fits)
      (fun child hchild => ⟨(hinside child hchild).start, (hinside child hchild).stop⟩) hinOrder
  | none =>
    -- A wrapper has a rule of its own, and its one field.
    obtain ⟨hkind, expression, hfields⟩ := (@settled_of_made (.mk header fields) horigin).mp h
    obtain rfl : fields = [.mk Kind.expressionField (.node expression)] := hfields
    unfold Printing.assemble? Printing.assemble
    simp only [horigin]
    exact if_pos ⟨rfl, hkind⟩

/-- **Nothing goes wrong** below settled nodes.  By induction on the tree: `assemble?_eq_some` takes
the step from the children to the node. -/
theorem print?_eq_some {node : Node} (h : ∀ found ∈ node.nodes, found.Settled) :
    node.print? = some node.print := by
  induction node using Node.childrenInduction with
  | step header fields ih =>
    have hfields := printFields?_eq_some fun child hchild => ih child hchild fun found hfound =>
      h found (mem_nodes_of_child hchild hfound)
    rw [print?, hfields]
    exact (h _ (self_mem_nodes _)).assemble?_eq_some

end Node

/-- The text of a whole tree, with every step checked. -/
def Tree.print? (tree : Tree) : Option Text := do
  let anchor ← tree.root.anchor
  let front ← Text.slice? tree.source 0 anchor.start
  let middle ← tree.root.print?
  let back ← Text.slice? tree.source anchor.stop (Text.size tree.source)
  return front ++ middle ++ back

/-- The text in front of the root, the root and the text behind it are all there. -/
theorem Tree.print?_eq_some {tree : Tree} {range : ByteRange}
    (hanchor : tree.root.anchor = some range) (hfits : range.FitsIn tree.source)
    (h : ∀ node ∈ tree.root.nodes, node.Settled) : tree.print? = some tree.print := by
  have hfront := (Text.slice?_eq_some (Text.isBoundary_zero _) hfits.start (Nat.zero_le _)).1
  have hback := (Text.slice?_eq_some hfits.stop (Text.isBoundary_size _) hfits.stop.le_size).1
  rw [Tree.print?, Tree.print, hanchor]
  show (Text.slice? tree.source 0 range.start).bind _ = some (if _ then _ else _)
  rw [if_pos hfits.stop.le_size, hfront, Option.bind_some, Node.print?_eq_some h]
  show (Text.slice? tree.source range.stop _).bind _ = _
  rw [hback]
  rfl

end SyntaxGraft
