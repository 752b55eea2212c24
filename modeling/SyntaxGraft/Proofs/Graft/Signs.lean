import SyntaxGraft.Proofs.Graft.LeftEdge
import SyntaxGraft.Proofs.Graft.Splicing
import Mathlib.Data.List.Pairwise
/-!
# Signs next to signs

Levels are about trees, but what comes out is text.  A minus right in front of a text that begins
with a minus is read with it as one token `--`, and likewise `++`.  A unary operator binds as
tightly as the operand of one has to, so where a pass puts `-y` for the `x` of `-x`, there are no
parentheses.

What stands right in front of a child, where no other child covers it, stays there
(`Node.Settled.exists_parts_of_gap`).  So a sign that touched an operand touches what a pass puts in
for it (`Tree.sign_meets_copy`), and `Tree.sign_meets_sign_iff` says when that begins with the same
sign.
-/

namespace SyntaxGraft

/-! ### Texts inside texts -/

namespace Node

/-- A settled node has the text of each child in its own, by `PrintsEachChild`. -/
theorem Settled.print_isInfix {node child : Node} (h : node.Settled)
    (hchild : child ∈ node.children) : child.print <:+: node.print := by
  have hprints := h.printsEachChild
  unfold PrintsEachChild at hprints
  split at hprints
  · obtain ⟨ordered, hperm, hspliced⟩ := hprints
    exact hspliced.isInfix (List.mem_map_of_mem (hperm.mem_iff.mpr hchild))
  · obtain ⟨expression, hchildren, hprint⟩ := hprints
    rw [hchildren, List.mem_singleton] at hchild
    rw [hchild]
    rcases hprint with hprint | hprint <;> rw [hprint]
    · exact (List.prefix_append _ _).isInfix
    · exact ⟨['('], [')'], rfl⟩

/-- **What stands right in front of a child stays there**, where no other child covers it. -/
theorem Settled.exists_parts_of_gap {node child : Node} {origin : Origin} (h : node.Settled)
    (horigin : node.header.origin = some origin) (hchild : child ∈ node.children)
    {gap : ByteRange} (hfits : gap.FitsIn origin.source) (hstart : origin.span.start ≤ gap.start)
    (hstop : gap.stop = child.range.start)
    (hapart : ∀ other ∈ node.children, other.range.Apart gap) :
    ∃ before after, node.print
      = before ++ Text.slice origin.source gap.start gap.stop ++ child.print ++ after := by
  have hanchored := (settled_of_origin horigin).mp h
  have hinside : ∀ other ∈ node.children, other.range.InsideOf origin := fun other hother =>
    (hanchored.insideOf_range hother).2
  have hprints := h.printsEachChild
  unfold PrintsEachChild at hprints
  rw [horigin] at hprints
  obtain ⟨ordered, hperm, hspliced⟩ := hprints
  -- In the order of the text, the child has some edits in front of it.
  obtain ⟨front, back, rfl⟩ := List.append_of_mem (hperm.mem_iff.mpr hchild)
  rw [List.map_append, List.map_cons] at hspliced
  have hinOrder := (List.pairwise_append.mp hspliced.inOrder.2).2.2
  have hlow : Text.IsBoundary origin.source origin.span.start := hanchored.fits.start
  have hhigh : Text.IsBoundary origin.source origin.span.stop := hanchored.fits.stop
  have hend : gap.stop ≤ origin.span.stop := by
    have hnonempty := (hinside child hchild).nonempty
    have hbound := (hinside child hchild).stop
    omega
  have hfront := (Text.slice?_eq_some hlow hfits.start hstart).2
  have hgap := (Text.slice?_eq_some hfits.start hfits.stop hfits.ordered).2
  -- The text of the node: what is before the gap, the gap, and the rest.
  have hparts : Text.slice origin.source origin.span.start origin.span.stop
      = Text.slice origin.source origin.span.start gap.start
        ++ Text.slice origin.source gap.start gap.stop
        ++ Text.slice origin.source gap.stop origin.span.stop := by
    rw [Text.slice_append_slice hlow hfits.start hfits.stop hstart hfits.ordered,
      Text.slice_append_slice hlow hfits.stop hhigh (Nat.le_trans hstart hfits.ordered) hend]
  refine hspliced.exists_parts_of_edit hparts ?_ ?_
  · rw [hfront, hgap, hstop]
  · -- Each edit in front is over where the gap begins.
    rw [hfront]
    intro edit hedit
    have hbefore := hinOrder edit hedit _ List.mem_cons_self
    obtain ⟨other, hother, rfl⟩ := List.mem_map.mp hedit
    have hmem : other ∈ node.children := hperm.mem_iff.mp (List.mem_append_left _ hother)
    have hnonempty := (hinside other hmem).nonempty
    have hbefore : other.range.stop ≤ child.range.start := hbefore
    show other.range.stop ≤ gap.start
    rcases hapart other hmem with hle | hle
    · exact hle
    · -- It would begin behind the gap, and end there too.
      omega

end Node

namespace Occurrence

/-- Where the nodes on the way are settled, the text of what is below is in the text of the node.
`Settled` is asked of these alone, for in a tree after a pass the copies may come from anywhere. -/
theorem print_isInfix {occurrence found : Occurrence} {position : List Nat}
    (h : occurrence.at? position = some found)
    (settled : ∀ above number below between, position = above ++ number :: below →
      occurrence.at? above = some between → between.node.Settled) :
    found.node.print <:+: occurrence.node.print := by
  induction position generalizing occurrence with
  | nil =>
    obtain rfl := Option.some.inj h
    exact List.infix_rfl
  | cons number rest ih =>
    obtain ⟨child, hchild, hfound⟩ := at?_cons_eq_some_iff.mp h
    have hbelow := ih hfound fun above next below between hrest hbetween =>
      settled (number :: above) next below between (congrArg (number :: ·) hrest)
        (at?_cons_eq_some_iff.mpr ⟨child, hchild, hbetween⟩)
    have hself := settled [] number rest occurrence rfl rfl
    exact hbelow.trans (hself.print_isInfix (node_mem_children (List.mem_of_getElem? hchild)))

/-- Above a topmost occurrence all is spared, in the sense of `isSpared`. -/
theorem isSpared_of_isTopmost_below {holds : Occurrence → Bool} {occurrence found : Occurrence}
    {number : Nat} {below : List Nat} (h : occurrence.at? (number :: below) = some found)
    (htop : found.isTopmost holds = true) : occurrence.isSpared holds = true := by
  have hclear := (isTopmost_iff.mp htop).2
  obtain ⟨child, hchild, hfound⟩ := at?_cons_eq_some_iff.mp h
  have hbelow : found ∈ occurrence.descendants := by
    rw [descendants_eq]
    exact List.mem_flatMap.mpr
      ⟨child, List.mem_of_getElem? hchild, mem_occurrences_iff.mpr ⟨below, hfound⟩⟩
  refine isSpared_iff.mpr ⟨hclear occurrence (mem_ancestors_of_mem_descendants hbelow), ?_⟩
  intro above habove
  exact hclear above (mem_ancestors_of_mem_ancestors hbelow habove)

end Occurrence

namespace Graft

variable {holds : Occurrence → Bool} {representative : Node} {low high : Nat}
  {before after : Occurrence}

/-- Whatever stands among the children of a node that stays, it stands at the same anchors. -/
theorem Substituted.map_anchor_children (h : Substituted holds representative low high before after)
    {position : List Nat} {found same : Occurrence} (hfound : before.at? position = some found)
    (hspared : found.isSpared holds = true) (hsame : after.at? position = some same)
    (houtline : same.node.outline = found.node.outline) (htrail : same.trail = found.trail) :
    same.node.children.map Node.anchor = found.node.children.map Node.anchor := by
  -- Child by child: `Substituted` speaks of positions, and knows no lists.
  rw [← Occurrence.map_node_children, ← Occurrence.map_node_children, List.map_map, List.map_map]
  apply List.ext_getElem?
  intro number
  rw [List.getElem?_map, List.getElem?_map]
  cases hchild : found.children[number]? with
  | none =>
    cases htwin : same.children[number]? with
    | none => rfl
    | some twin =>
      obtain ⟨child, hsome, -⟩ :=
        Occurrence.exists_child_of_outline_eq houtline.symm htrail.symm htwin
      rw [hchild] at hsome
      cases hsome
  | some child =>
    obtain ⟨twin, htwin, -⟩ := Occurrence.exists_child_of_outline_eq houtline htrail hchild
    have hbelow : before.at? (position ++ [number]) = some child := by
      rw [Occurrence.at?_append, hfound]
      exact Occurrence.at?_cons_eq_some_iff.mpr ⟨child, hchild, rfl⟩
    have hbelow' : after.at? (position ++ [number]) = some twin := by
      rw [Occurrence.at?_append, hsame]
      exact Occurrence.at?_cons_eq_some_iff.mpr ⟨twin, htwin, rfl⟩
    rw [htwin]
    -- A child of a node that stays is itself one that stays, or it is replaced.
    obtain ⟨hself, habove⟩ := Occurrence.isSpared_iff.mp hspared
    have hclear := Occurrence.clear_of_mem_children (List.mem_of_getElem? hchild) habove hself
    cases hholds : holds child with
    | false =>
      obtain ⟨stays, hstays, hsameOutline, -⟩ :=
        h.kept _ child hbelow (Occurrence.isSpared_iff.mpr ⟨hholds, hclear⟩)
      obtain rfl := Option.some.inj (hbelow'.symm.trans hstays)
      exact congrArg (fun outline => some outline.1.anchor) hsameOutline
    | true =>
      obtain ⟨copy, hcopy, ⟨first, inner, -, -, -, -, hnode⟩, -⟩ :=
        h.replaced _ child hbelow (Occurrence.isTopmost_iff.mpr ⟨hholds, hclear⟩)
      obtain rfl := Option.some.inj (hbelow'.symm.trans hcopy)
      have hanchor : twin.node.anchor = child.node.anchor := by
        rw [hnode]
        rfl
      exact congrArg some hanchor

/-- On the way to what is replaced all stays, and is settled if it was (`Settled.transfer`). -/
theorem Substituted.exists_settled_above
    (h : Substituted holds representative low high before after)
    (settled : ∀ position found, before.at? position = some found → found.node.Settled)
    {above below : List Nat} {number : Nat} {target : Occurrence}
    (htarget : before.at? (above ++ number :: below) = some target)
    (htop : target.isTopmost holds = true) :
    ∃ found same, before.at? above = some found ∧ after.at? above = some same ∧
      same.node.outline = found.node.outline ∧
      same.node.children.map Node.anchor = found.node.children.map Node.anchor ∧
      same.node.Settled := by
  rw [Occurrence.at?_append] at htarget
  obtain ⟨found, hfound, hbelow⟩ := Option.bind_eq_some_iff.mp htarget
  have hspared := Occurrence.isSpared_of_isTopmost_below hbelow htop
  obtain ⟨same, hsame, houtline, htrail⟩ := h.kept above found hfound hspared
  have hanchors := h.map_anchor_children hfound hspared hsame houtline htrail
  obtain ⟨hheader, hfields⟩ := Prod.mk.inj houtline
  exact ⟨found, same, hfound, hsame, houtline, hanchors, (settled above found hfound).transfer
    (congrArg Header.kind hheader) (congrArg Header.origin hheader) hfields hanchors⟩

end Graft

/-- The text of the root is in the text of the tree. -/
theorem Tree.print_root_isInfix (tree : Tree) : tree.root.print <:+: tree.print := by
  unfold Tree.print
  split
  · split
    · exact ⟨_, _, rfl⟩
    · exact List.infix_rfl
  · exact List.infix_rfl

/-! ### Signs in parse trees -/

namespace ParseTree

variable {text : Text} {tree : ParseTree}

theorem WellFormed.of_mem_namedTrees (h : tree.WellFormed text) {found : ParseTree}
    (hfound : found ∈ tree.namedTrees) : found.WellFormed text := by
  induction tree using ParseTree.childrenInduction with
  | step row children ih =>
    rcases mem_namedTrees_iff.mp hfound with rfl | ⟨child, hchild, -, hbelow⟩
    · exact h
    · cases h with
      | mk fits within inOrder nonempty below => exact ih child hchild (below child hchild) hbelow

/-- A token of the node, in the field for operators, is a sign that ends at an offset. -/
def SignEndsAt (tree : ParseTree) (text : Text) (sign : Char) (offset : Nat) : Prop :=
  ∃ token ∈ tree.children, Parse.isNamed token = false ∧ token.row.field = some "operator" ∧
    token.row.textIn text = [sign] ∧ token.row.stop = offset

end ParseTree

namespace Parse

variable {text : Text} {tree token : ParseTree} {number : Nat}

/-- No child of a node meets a token of it, as in a parse tree they are siblings in order. -/
theorem apart_of_token (hwell : tree.WellFormed text) (htoken : token ∈ tree.children)
    (hunnamed : isNamed token = false) {child : Node}
    (hchild : child ∈ (nodeOf text (tree, number)).children) :
    child.range.Apart token.row.range := by
  obtain ⟨row, children⟩ := tree
  obtain ⟨source, hsource, rfl⟩ :=
    List.mem_map.mp ((children_nodeOf_subperm text row children number).subset hchild)
  obtain ⟨hmem, hnamed⟩ := mem_of_mem_numbered hsource
  -- A child comes of a named tree, and the token is not one.
  have hne : source.1 ≠ token := by
    rintro rfl
    rw [hnamed] at hunnamed
    cases hunnamed
  have hanchor : (nodeOf text source).anchor = some source.1.row.range :=
    congrArg Header.anchor (header_nodeOf text source)
  rw [Node.range_of_anchor hanchor]
  cases hwell with
  | mk fits within inOrder nonempty below =>
    have happart : children.Pairwise fun tree other => tree.row.range.Apart other.row.range :=
      inOrder.imp Or.inl
    have : Std.Symm fun tree other : ParseTree => tree.row.range.Apart other.row.range :=
      ⟨fun _ _ h => h.symm⟩
    exact happart.forall hmem htoken hne

/-- **A sign that touches a child touches what stands there after.** -/
theorem exists_parts_of_signEndsAt (hwell : tree.WellFormed text) {kept child : Node}
    (hsettled : kept.Settled) (horigin : kept.header.origin = some ⟨text, tree.row.spanIn text⟩)
    (hanchors : kept.children.map Node.anchor
      = (nodeOf text (tree, number)).children.map Node.anchor)
    (hchild : child ∈ kept.children) {sign : Char}
    (hsign : tree.SignEndsAt text sign child.range.start) :
    ∃ before after, kept.print = before ++ [sign] ++ child.print ++ after := by
  obtain ⟨token, htoken, hunnamed, -, htext, hstop⟩ := hsign
  have hapart : ∀ other ∈ kept.children, other.range.Apart token.row.range := by
    intro other hother
    have hmem : other.anchor ∈ kept.children.map Node.anchor := List.mem_map_of_mem hother
    rw [hanchors] at hmem
    obtain ⟨twin, htwin, hanchor⟩ := List.mem_map.mp hmem
    rw [Node.range, ← hanchor]
    exact apart_of_token hwell htoken hunnamed htwin
  rw [← htext]
  cases hwell with
  | mk fits within inOrder nonempty below =>
    exact hsettled.exists_parts_of_gap horigin hchild (below token htoken).fits
      (within token htoken).1 hstop hapart

end Parse

/-! ### What is put behind a sign -/

namespace Slot

/-- The sign in front of the slot: that of a signed operand, or of the right one of a sum or
difference. -/
def sign? (slot : Slot) : Option Char :=
  if slot.parent = "UnaryExpression" ∧ slot.field = "argument"
      ∨ slot.parent = "BinaryExpression" ∧ slot.field = "right" then
    match slot.operator with
    | some "+" => some '+'
    | some "-" => some '-'
    | _ => none
  else none

variable {slot : Slot} {sign : Char}

theorem cases_of_sign? (h : slot.sign? = some sign) :
    (slot.parent = "UnaryExpression" ∧ slot.field = "argument"
        ∨ slot.parent = "BinaryExpression" ∧ slot.field = "right") ∧
      (slot.operator = some "+" ∧ sign = '+' ∨ slot.operator = some "-" ∧ sign = '-') := by
  unfold sign? at h
  split at h
  next hplace =>
    split at h
    next hoperator => exact ⟨hplace, Or.inl ⟨hoperator, (Option.some.inj h).symm⟩⟩
    next hoperator => exact ⟨hplace, Or.inr ⟨hoperator, (Option.some.inj h).symm⟩⟩
    next => cases h
  next => cases h

/-- Behind a sign only the level counts: `wrapping` has no other reason in these slots. -/
theorem wrapping_of_sign? (h : slot.sign? = some sign) (node : Node) :
    slot.wrapping node = if node.level < slot.minimum then .parentheses else .bare := by
  obtain ⟨parent, field, operator⟩ := slot
  obtain ⟨hplace, hoperator⟩ := cases_of_sign? h
  have hstatement : isStatement ⟨parent, field, operator⟩ = false := by
    rcases hplace with ⟨rfl, rfl⟩ | ⟨rfl, rfl⟩ <;> rfl
  have hneeds : needsParens ⟨parent, field, operator⟩ node
      = decide (node.level < minimum ⟨parent, field, operator⟩) := by
    unfold needsParens
    by_cases hlevel : node.level < minimum ⟨parent, field, operator⟩
    · simp only [hlevel, if_true, decide_true]
    · -- A sign does not mix with `??`, and there is no other demand here.
      rcases hplace with ⟨rfl, rfl⟩ | ⟨rfl, rfl⟩ <;>
        rcases hoperator with ⟨rfl, -⟩ | ⟨rfl, -⟩ <;>
        simp [hlevel, mixesCoalesce, isLogical]
  unfold wrapping
  rw [hstatement, hneeds]
  simp

/-- The text that comes behind a sign begins with the sign where it has no parentheses and the
text put in does. -/
theorem head?_spell_of_sign? (h : slot.sign? = some sign) (node : Node) (text : Text) :
    ((slot.wrapping node).spell text).head? = some sign ↔
      slot.minimum ≤ node.level ∧ text.head? = some sign := by
  rw [wrapping_of_sign? h]
  split
  next hloose =>
    have hparenthesis : '(' ≠ sign := by
      obtain ⟨-, ⟨-, rfl⟩ | ⟨-, rfl⟩⟩ := cases_of_sign? h <;> decide
    simp [Wrapping.spell, hparenthesis, hloose]
  next htight => simp [Wrapping.spell, Nat.not_lt.mp htight]

end Slot

namespace Tree

variable {grammar : Grammar} {source : Text} {tree : Tree} {parsed : ParseTree}

/-- A node of a parsed tree is what `Parse.nodeOf` makes of the named tree with its number. -/
theorem exists_tree_of_parse (hwell : grammar.WellFormedAt source)
    (hgrammar : grammar source = some parsed) (hparse : Tree.parse grammar source = .ok tree)
    {node : Node} (h : node ∈ tree.root.nodes) :
    ∃ found, parsed.namedTrees[node.id]? = some found ∧ found.WellFormed source ∧
      Parse.nodeOf source (found, node.id) = node := by
  obtain ⟨same, hsame, hfault, rfl⟩ := parse_eq_ok_iff.mp hparse
  obtain rfl : parsed = same := Option.some.inj (hgrammar.symm.trans hsame)
  obtain ⟨⟨found, number⟩, hnumber, rfl⟩ := Parse.exists_tree_of_mem_nodes h
  rw [Parse.id_nodeOf]
  have hfound := List.mem_zipIdx_iff_getElem?.mp hnumber
  exact ⟨found, hfound, (hwell parsed hgrammar hfault).of_mem_namedTrees
    (List.mem_of_getElem? hfound), rfl⟩

variable {selector : Selector} {above : List Nat} {number : Nat} {parent target : Occurrence}
  {sign : Char}

/-- **A sign in front of what is replaced stays there**, right in front of what is put in. -/
theorem sign_meets_copy (hwell : grammar.WellFormedAt source)
    (hgrammar : grammar source = some parsed) (hparse : Tree.parse grammar source = .ok tree)
    (fragment : Fragment) (hparent : Occurrence.at? ⟨tree.root, []⟩ above = some parent)
    (htarget : parent.children[number]? = some target)
    (htop : target.isTopmost selector.holds = true)
    (hadjacent : ∃ found, parsed.namedTrees[parent.node.id]? = some found ∧
      found.SignEndsAt source sign target.node.range.start) :
    let next := (tree.graft selector fragment).tree
    ∃ copy before after, Occurrence.at? ⟨next.root, []⟩ (above ++ [number]) = some copy ∧
      Graft.Inserted fragment.representative target.node target.slot tree.nextId next.nextId
        copy.node ∧
      next.print = before ++ [sign] ++ copy.node.print ++ after := by
  intro next
  have hready := Graft.ready_of_distinct (numbered_of_parse hparse).distinct selector fragment
  have hsubstituted := (Graft.substituted_visit hready ⟨tree.nextId, 0⟩).2 [] rfl
  have hmem : ∀ position found, Occurrence.at? ⟨tree.root, []⟩ position = some found →
      found.node ∈ tree.root.nodes := fun position found hfound =>
    List.mem_map_of_mem (Occurrence.mem_occurrences_iff.mpr ⟨position, hfound⟩)
  have hsettled : ∀ position found, Occurrence.at? ⟨tree.root, []⟩ position = some found →
      found.node.Settled := fun position found hfound =>
    ((intact_of_parse hwell hparse).2 found.node (hmem position found hfound)).settled
  have hat : Occurrence.at? ⟨tree.root, []⟩ (above ++ [number]) = some target := by
    rw [Occurrence.at?_append, hparent]
    exact Occurrence.at?_cons_eq_some_iff.mpr ⟨target, htarget, rfl⟩
  obtain ⟨copy, hcopy, hinserted, -⟩ := hsubstituted.replaced _ target hat htop
  obtain ⟨same, kept, hsame, hkept, houtline, hanchors, hkeptSettled⟩ :=
    hsubstituted.exists_settled_above hsettled hat htop
  obtain rfl : parent = same := Option.some.inj (hparent.symm.trans hsame)
  -- In the text of the parent the sign is right in front of the copy.
  have hparts : ∃ before after,
      kept.node.print = before ++ [sign] ++ copy.node.print ++ after := by
    obtain ⟨found, hfound, hends⟩ := hadjacent
    obtain ⟨twin, htwin, hfoundWell, hnode⟩ :=
      exists_tree_of_parse hwell hgrammar hparse (hmem above parent hparent)
    obtain rfl : found = twin := Option.some.inj (hfound.symm.trans htwin)
    have horigin : kept.node.header.origin = some ⟨source, found.row.spanIn source⟩ := by
      rw [show kept.node.header = parent.node.header from congrArg Prod.fst houtline, ← hnode,
        Parse.header_nodeOf]
      rfl
    have hchild : copy.node ∈ kept.node.children := by
      rw [Occurrence.at?_append, hkept] at hcopy
      obtain ⟨child, hchild, hself⟩ := Occurrence.at?_cons_eq_some_iff.mp hcopy
      obtain rfl := Option.some.inj hself
      exact Occurrence.node_mem_children (List.mem_of_getElem? hchild)
    have hrange : copy.node.range = target.node.range := by
      obtain ⟨first, inner, -, -, -, -, hcopyNode⟩ := hinserted
      rw [hcopyNode]
      rfl
    exact Parse.exists_parts_of_signEndsAt hfoundWell hkeptSettled horigin (hnode ▸ hanchors)
      hchild (hrange ▸ hends)
  -- And the text of the parent is in that of the tree.
  have hinfix : kept.node.print <:+: next.print := by
    refine (Occurrence.print_isInfix hkept ?_).trans (print_root_isInfix next)
    rintro shorter step below between rfl hbetween
    rw [List.append_assoc, List.cons_append] at hat
    obtain ⟨_, same, -, hsame, -, -, hsettled⟩ :=
      hsubstituted.exists_settled_above hsettled hat htop
    obtain rfl := Option.some.inj (hsame.symm.trans hbetween)
    exact hsettled
  obtain ⟨before, after, hkeptPrint⟩ := hparts
  obtain ⟨front, back, hnext⟩ := hinfix
  refine ⟨copy, front ++ before, after ++ back, hcopy, hinserted, ?_⟩
  rw [← hnext, hkeptPrint]
  simp only [List.append_assoc]

/-- **A sign meets the same sign** where the representative begins with it, and binds tightly enough
to need no parentheses. -/
theorem sign_meets_sign_iff (hwell : grammar.WellFormedAt source)
    (hgrammar : grammar source = some parsed) (hparse : Tree.parse grammar source = .ok tree)
    (fragment : Fragment) (hparent : Occurrence.at? ⟨tree.root, []⟩ above = some parent)
    (htarget : parent.children[number]? = some target)
    (htop : target.isTopmost selector.holds = true) (hsign : target.slot.sign? = some sign)
    (hadjacent : ∃ found, parsed.namedTrees[parent.node.id]? = some found ∧
      found.SignEndsAt source sign target.node.range.start) :
    let next := (tree.graft selector fragment).tree
    let representative := fragment.representative
    ∃ copy before after, Occurrence.at? ⟨next.root, []⟩ (above ++ [number]) = some copy ∧
      Graft.Inserted representative target.node target.slot tree.nextId next.nextId copy.node ∧
      next.print = before ++ [sign] ++ copy.node.print ++ after ∧
      (copy.node.print.head? = some sign ↔
        target.slot.minimum ≤ representative.level ∧
          representative.print.head? = some sign) := by
  intro next representative
  obtain ⟨copy, before, after, hcopy, hinserted, hnext⟩ :=
    sign_meets_copy hwell hgrammar hparse fragment hparent htarget htop hadjacent
  refine ⟨copy, before, after, hcopy, hinserted, hnext, ?_⟩
  rw [hinserted.print_eq]
  exact Slot.head?_spell_of_sign? hsign representative representative.print

end Tree

namespace Sample

/-- A name behind a sign. -/
def signed (operator : String) : ParseTree :=
  named "unary_expression" none 0 2 [
    token operator (some "operator") 0 1,
    named "identifier" (some "argument") 1 2 []]

def negation : Text := "-x;".toList

def negationTree : ParseTree :=
  program 3 (signed "-")

/-- The grammar that knows a negation. -/
def negations : Grammar := .ofLookup fun text => if text = negation then some negationTree else none

theorem wellFormedAt_negation : negations.WellFormedAt negation :=
  Grammar.wellFormedAt_of_eq_some rfl (by decide +kernel : negationTree.WellFormed negation)

end Sample

/-- A plus is put behind a minus and stays apart from it. -/
theorem Tree.sign_meets_sign_iff_plus :
    let tree := ofParseTree Sample.negation Sample.negationTree
    Tree.parse Sample.negations Sample.negation = .ok tree ∧
      ∃ fragment, Fragment.ofTree (ofParseTree "+y".toList (Sample.program 2 (Sample.signed "+")))
          = .ok fragment ∧
        let next := (tree.graft Sample.names fragment).tree
        ∃ copy before after, Occurrence.at? ⟨next.root, []⟩ [0, 0, 0] = some copy ∧
          next.print = before ++ ['-'] ++ copy.node.print ++ after ∧
          copy.node.print.head? ≠ some '-' := by
  intro tree
  refine ⟨rfl, _, rfl, ?_⟩
  intro next
  obtain ⟨copy, before, after, hcopy, -, hnext, hhead⟩ :=
    @sign_meets_sign_iff Sample.negations Sample.negation tree Sample.negationTree Sample.names
      [0, 0] 0 _ _ '-' Sample.wellFormedAt_negation rfl rfl _ rfl rfl rfl rfl
      ⟨_, rfl, _, List.mem_cons_self, rfl, rfl, rfl, rfl⟩
  refine ⟨copy, before, after, hcopy, hnext, ?_⟩
  rw [Ne, hhead]
  rintro ⟨-, h⟩
  exact absurd h (by decide +kernel)

/-- **Signs fuse**: the negation of a name is put for the operand of a negation without parentheses,
and both signs are read as one token. -/
theorem Tree.signs_fuse :
    let tree := ofParseTree Sample.negation Sample.negationTree
    Sample.negations.WellFormedAt Sample.negation ∧
      Tree.parse Sample.negations Sample.negation = .ok tree ∧
      ∃ fragment, Fragment.ofTree (ofParseTree "-y".toList (Sample.program 2 (Sample.signed "-")))
          = .ok fragment ∧
        let next := (tree.graft Sample.names fragment).tree
        ∃ parent target copy, Occurrence.at? ⟨tree.root, []⟩ [0, 0] = some parent ∧
          parent.children[0]? = some target ∧
          target.isTopmost Sample.names.holds = true ∧ target.slot.sign? = some '-' ∧
          (∃ found, Sample.negationTree.namedTrees[parent.node.id]? = some found ∧
            found.SignEndsAt Sample.negation '-' target.node.range.start) ∧
          Occurrence.at? ⟨next.root, []⟩ [0, 0, 0] = some copy ∧
          copy.node.print.head? = some '-' ∧ next.print = "--y;".toList :=
  ⟨Sample.wellFormedAt_negation, rfl, _, rfl, _, _, _, rfl, rfl, rfl, rfl,
    ⟨_, rfl, _, List.mem_cons_self, rfl, rfl, rfl, rfl⟩, rfl, by decide +kernel,
    by decide +kernel⟩

end SyntaxGraft
