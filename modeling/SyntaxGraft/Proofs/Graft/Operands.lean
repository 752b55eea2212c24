import SyntaxGraft.Proofs.Graft.SecondPass
/-!
# Operands and the slots they stand in

An operand violates its slot when it needs parentheses there and has none (`Occurrence.violates`).
Little decides about that: the kind and the operator of the parent, the field, and what the operand
is apart from the nodes below it (`Occurrence.look`).  A pass keeps all of it for a node that stays,
whatever it does deeper inside, and a copy has it from its original.

So a pass puts no violation in (`Graft.Inserted.needsParens_eq_false`), and each violation after it
was there before or is the image of one inside the representative (`Graft.Sound`).  That a copy has
below it what the representative has is `Occurrence.exists_twin_at?`, by descent along a position.
Over any number of passes every violation goes back to the first tree or to a representative
(`Tree.exists_source_of_violation`).
-/

namespace SyntaxGraft

/-! ### What decides -/

/-- The same outlines give values of the same outline under a name. -/
theorem Fields.map_outline_get? {fields others : List Field}
    (h : fields.map Field.outline = others.map Field.outline) (name : String) :
    (get? name fields).map Value.outline = (get? name others).map Value.outline := by
  induction fields generalizing others with
  | nil =>
    obtain rfl := List.map_eq_nil_iff.mp h.symm
    rfl
  | cons field rest ih =>
    cases others with
    | nil => cases h
    | cons other others =>
      obtain ⟨hfirst, hrest⟩ := List.cons.inj h
      obtain ⟨hname, hvalue⟩ := Prod.mk.inj hfirst
      rw [get?, get?, hname]
      split
      · exact congrArg some hvalue
      · exact ih hrest

namespace Node

variable {node other : Node}

theorem operator?_of_outline_eq
    (h : node.fields.map Field.outline = other.fields.map Field.outline) :
    node.operator? = other.operator? := by
  have hvalue := Fields.map_outline_get? h "operator"
  unfold operator? get?
  cases hnode : Fields.get? "operator" node.fields with
  | none =>
    rw [hnode] at hvalue
    rw [Option.map_eq_none_iff.mp hvalue.symm]
  | some value =>
    rw [hnode] at hvalue
    obtain ⟨twin, htwin, hsame⟩ := Option.map_eq_some_iff.mp hvalue.symm
    rw [htwin]
    -- Scalars are part of the outline.
    cases value <;> cases twin <;> simp_all [Value.outline, Value.scalar?]

theorem level_of_outline_eq (hkind : node.kind = other.kind)
    (h : node.fields.map Field.outline = other.fields.map Field.outline) :
    node.level = other.level := by
  have harguments := congrArg Option.isNone (Fields.map_outline_get? h "arguments")
  rw [Option.isNone_map, Option.isNone_map] at harguments
  unfold level get?
  rw [hkind, operator?_of_outline_eq h, harguments]

end Node

theorem Slot.needsParens_of_outline_eq (slot : Slot) {node other : Node}
    (hkind : node.kind = other.kind)
    (h : node.fields.map Field.outline = other.fields.map Field.outline) :
    slot.needsParens node = slot.needsParens other := by
  unfold needsParens
  rw [Node.level_of_outline_eq hkind h, hkind, Node.operator?_of_outline_eq h]

namespace Occurrence

/-- The operand needs parentheses where it stands, by `Slot.needsParens`, and is not in any. -/
def violates (occurrence : Occurrence) : Bool :=
  occurrence.slot.needsParens occurrence.node

/-- The slot, and what stands in it apart from the nodes below: all that `violates` depends on
(`violates_of_look_eq`). -/
def look (occurrence : Occurrence) : Slot × String × List (String × ValueOutline) :=
  (occurrence.slot, occurrence.node.kind, occurrence.node.fields.map Field.outline)

variable {occurrence other : Occurrence}

theorem violates_of_look_eq (h : occurrence.look = other.look) :
    occurrence.violates = other.violates := by
  obtain ⟨hslot, hrest⟩ := Prod.mk.inj h
  obtain ⟨hkind, hfields⟩ := Prod.mk.inj hrest
  rw [violates, violates, hslot]
  exact other.slot.needsParens_of_outline_eq hkind hfields

/-- The `trail` says which slot it leads to, since the outline of the parent has its operator. -/
theorem slot_of_trail_eq (h : occurrence.trail = other.trail) : occurrence.slot = other.slot := by
  obtain ⟨node, path⟩ := occurrence
  obtain ⟨node', path'⟩ := other
  cases path with
  | nil =>
    obtain rfl : path' = [] := List.map_eq_nil_iff.mp h.symm
    rfl
  | cons step rest =>
    cases path' with
    | nil => cases h
    | cons step' rest' =>
      obtain ⟨hfirst, -⟩ := List.cons.inj h
      obtain ⟨houtline, hlabel⟩ := Prod.mk.inj hfirst
      obtain ⟨hheader, hfields⟩ := Prod.mk.inj houtline
      obtain ⟨hfield, -⟩ := Prod.mk.inj hlabel
      show Slot.mk step.parent.kind step.field step.parent.operator? = Slot.mk _ _ _
      rw [Node.operator?_of_outline_eq hfields, hfield, Node.kind, hheader]
      rfl

theorem look_of_outline_eq (houtline : occurrence.node.outline = other.node.outline)
    (htrail : occurrence.trail = other.trail) : occurrence.look = other.look := by
  obtain ⟨hheader, hfields⟩ := Prod.mk.inj houtline
  rw [look, look, slot_of_trail_eq htrail, hfields, Node.kind, hheader]
  rfl

end Occurrence

/-! ### Slots that take anything -/

theorem Level.le_of_ofOperator?_eq_some {operator : String} {level : Nat}
    (h : ofOperator? operator = some level) : level ≤ 14 := by
  obtain ⟨row, hrow, rfl⟩ := Option.map_eq_some_iff.mp h
  have hall : ∀ row ∈ binaryOperators, row.1 ≤ 14 := by decide
  exact hall row (List.mem_of_find?_eq_some hrow)

namespace Slot

theorem operandMinimum_le (side operator : String) :
    operandMinimum side operator ≤ Level.member := by
  unfold operandMinimum
  -- On the right a level is raised by one, so the levels of operators must stay well below.
  split
  · exact Nat.zero_le _
  next level hlevel =>
    have hle := Level.le_of_ofOperator?_eq_some hlevel
    simp only [Level.update, Level.member]
    split
    · split <;> omega
    · split
      · split <;> omega
      · omega

/-- No slot asks for more than `Level.member`. -/
theorem minimum_le (slot : Slot) : slot.minimum ≤ Level.member := by
  unfold minimum
  split
  · split
    · exact operandMinimum_le _ _
    · exact Nat.zero_le _
  · simp only [Level.unary, Level.member, Level.coalesce, Level.assignment]
    split_ifs <;> omega

/-- Parentheses need no parentheses: `Level.primary` is above what any slot asks for. -/
theorem needsParens_parenthesized (slot : Slot) (id : Nat) (node : Node) :
    slot.needsParens (Node.parenthesized id node) = false := by
  have hlevel : ¬ (Node.parenthesized id node).level < slot.minimum :=
    Nat.not_lt.mpr (Nat.le_trans slot.minimum_le (by decide : Level.member ≤ Level.primary))
  have hkind : (Node.parenthesized id node).kind = "ParenthesizedExpression" := rfl
  rw [needsParens, if_neg hlevel, hkind]
  split_ifs <;> simp

/-- Among statements (`Slot.isStatement`) nothing needs parentheses. -/
theorem needsParens_of_isStatement {slot : Slot} (h : slot.isStatement = true) (node : Node) :
    slot.needsParens node = false := by
  obtain ⟨parent, field, operator⟩ := slot
  obtain ⟨hfield, hparent⟩ := Bool.and_eq_true_iff.mp h
  obtain rfl : field = Kind.bodyField := by simpa using hfield
  simp only [Kind.statementContainers, List.contains_iff_mem, List.mem_cons, List.not_mem_nil,
    or_false] at hparent
  rcases hparent with rfl | rfl | rfl | rfl <;> rfl

/-- Inside a wrapper (`Kind.wrapperKinds`) nothing needs parentheses. -/
theorem needsParens_of_mem_wrapperKinds {kind : String} (h : kind ∈ Kind.wrapperKinds)
    (operator : Option String) (node : Node) :
    needsParens ⟨kind, Kind.expressionField, operator⟩ node = false := by
  simp only [Kind.wrapperKinds, List.mem_cons, List.not_mem_nil, or_false] at h
  rcases h with rfl | rfl <;> rfl

theorem wrapping_of_unnumbered_eq (slot : Slot) {node other : Node}
    (h : node.unnumbered = other.unnumbered) : slot.wrapping node = slot.wrapping other := by
  have hforget : ∀ node : Node, slot.wrapping node.unnumbered = slot.wrapping node := by
    intro node
    unfold wrapping
    rw [Node.kind_unnumbered, needsParens_unnumbered]
  rw [← hforget, h, hforget]

/-- What the slot demands around a node by `wrapping` is enough: `around` gives a node that
`needsParens` accepts. -/
theorem needsParens_around (slot : Slot) (id : Nat) (node : Node) :
    slot.needsParens ((slot.wrapping node).around id node) = false := by
  unfold wrapping
  split
  next h => exact needsParens_of_isStatement (Bool.and_eq_true_iff.mp h).1 _
  · split
    · exact slot.needsParens_parenthesized id node
    next h => exact Bool.eq_false_iff.mpr h

end Slot

/-! ### Copies, node by node -/

/-- Nodes that are `unnumbered` alike have the same kind, and copies below. -/
theorem Node.kind_and_fields_of_unnumbered_eq {node other : Node}
    (h : node.unnumbered = other.unnumbered) :
    node.kind = other.kind ∧
      node.fields.map Field.unnumbered = other.fields.map Field.unnumbered := by
  constructor
  · rw [← kind_unnumbered, h, kind_unnumbered]
  · rw [← fields_unnumbered, h, fields_unnumbered]

namespace Occurrence

/-- The two stand in slots that are alike, and what stands there is the same but for identities. -/
structure Twins (occurrence other : Occurrence) : Prop where
  slot : occurrence.slot = other.slot
  node : occurrence.node.unnumbered = other.node.unnumbered

variable {occurrence other : Occurrence}

theorem Twins.look_eq (h : occurrence.Twins other) : occurrence.look = other.look := by
  rw [look, look, h.slot, ← Node.kind_unnumbered, ← Node.outline_fields_unnumbered, h.node,
    Node.kind_unnumbered, Node.outline_fields_unnumbered]

/-- Nodes of one kind whose fields hold copies have children that are twins (`Twins`). -/
theorem exists_child_twin (hkind : occurrence.node.kind = other.node.kind)
    (hfields : occurrence.node.fields.map Field.unnumbered
      = other.node.fields.map Field.unnumbered)
    {number : Nat} {child : Occurrence} (h : occurrence.children[number]? = some child) :
    ∃ twin, other.children[number]? = some twin ∧ child.Twins twin := by
  have houtline : occurrence.node.fields.map Field.outline
      = other.node.fields.map Field.outline := by
    rw [← Node.outline_fields_unnumbered, Node.fields_unnumbered, hfields,
      ← Node.fields_unnumbered, Node.outline_fields_unnumbered]
  have hlabels : occurrence.children.map label? = other.children.map label? := by
    rw [map_label?_children, map_label?_children, Node.outline, Node.outline, houtline]
  have hnodes : (occurrence.children.map node).map Node.unnumbered
      = (other.children.map node).map Node.unnumbered := by
    rw [map_node_children, map_node_children, ← Node.children_unnumbered,
      ← Node.children_unnumbered, Node.children, Node.children, Node.fields_unnumbered,
      Node.fields_unnumbered, hfields]
  -- So the children with this number have the same label, and are copies of each other.
  have hlabel := congrArg (fun labels => labels[number]?) hlabels
  have hnode := congrArg (fun nodes => nodes[number]?) hnodes
  simp only [List.getElem?_map, h, Option.map_some] at hlabel hnode
  obtain ⟨twin, htwin, hlabel⟩ := Option.map_eq_some_iff.mp hlabel.symm
  rw [htwin] at hnode
  refine ⟨twin, htwin, ?_, Option.some.inj hnode⟩
  -- Both slots are the parent's kind and operator with the field of the same label.
  obtain ⟨field, index, hpath⟩ := path_of_mem_children (List.mem_of_getElem? h)
  obtain ⟨field', index', hpath'⟩ := path_of_mem_children (List.mem_of_getElem? htwin)
  rw [label?, label?, hpath, hpath'] at hlabel
  obtain ⟨rfl, -⟩ := Prod.mk.inj (Option.some.inj hlabel)
  rw [slot, slot, hpath, hpath']
  show Slot.mk _ _ occurrence.node.operator? = _
  rw [hkind, Node.operator?_of_outline_eq houtline]

/-- Below nodes that are copies, twins stand at the same positions.  The two at the top need not be
twins, since a copy may stand in another slot than its original; that is why `position` is not
empty. -/
theorem exists_twin_at? {position : List Nat} (hne : position ≠ [])
    (hkind : occurrence.node.kind = other.node.kind)
    (hfields : occurrence.node.fields.map Field.unnumbered
      = other.node.fields.map Field.unnumbered)
    {found : Occurrence} (h : occurrence.at? position = some found) :
    ∃ twin, other.at? position = some twin ∧ found.Twins twin := by
  -- Down the position: from the first child on, the two are twins and the claim applies again.
  induction position generalizing occurrence other with
  | nil => exact absurd rfl hne
  | cons number rest ih =>
    obtain ⟨child, hchild, hfound⟩ := at?_cons_eq_some_iff.mp h
    obtain ⟨twin, htwin, htwins⟩ := exists_child_twin hkind hfields hchild
    cases rest with
    | nil =>
      obtain rfl := Option.some.inj hfound
      exact ⟨twin, at?_cons_eq_some_iff.mpr ⟨twin, htwin, rfl⟩, htwins⟩
    | cons next rest =>
      obtain ⟨hkind, hfields⟩ := Node.kind_and_fields_of_unnumbered_eq htwins.node
      obtain ⟨same, hsame, hrest⟩ := ih (List.cons_ne_nil _ _) hkind hfields hfound
      exact ⟨same, at?_cons_eq_some_iff.mpr ⟨twin, htwin, hsame⟩, hrest⟩

end Occurrence

/-! ### What a pass puts in -/

/-- The way (`Occurrence.at?`) from the outermost node of what is put in to the copy. -/
def Wrapping.way (wrapping : Wrapping) : List Nat :=
  List.replicate wrapping.count 0

namespace Graft

variable {representative target : Node} {slot : Slot} {low high : Nat}

/-- **What is put in does not violate the slot it is put in** (`Slot.needsParens`), wrapped or not.
-/
theorem Inserted.needsParens_eq_false {node : Node}
    (h : Inserted representative target slot low high node) : slot.needsParens node = false := by
  obtain ⟨first, copy, -, -, hcopy, -, rfl⟩ := h
  rw [← slot.wrapping_of_unnumbered_eq hcopy]
  have hanchor : ∀ (node : Node) (range : Option ByteRange),
      slot.needsParens (node.withAnchor range) = slot.needsParens node := fun _ _ => rfl
  rw [hanchor]
  exact slot.needsParens_around _ copy

/-- Below the copy stands what stands below the representative, one step deeper where the copy is
wrapped; and a wrapper takes any copy. -/
theorem Inserted.cases_at? {inserted found : Occurrence} {below : List Nat}
    (h : Inserted representative target slot low high inserted.node)
    (hfound : inserted.at? below = some found) :
    below = [] ∧ found = inserted ∨
      below = (slot.wrapping representative).way ∧ found.violates = false ∨
      ∃ inside inner, below = (slot.wrapping representative).way ++ inside ∧ inside ≠ [] ∧
        Occurrence.at? ⟨representative, []⟩ inside = some inner ∧ found.Twins inner := by
  obtain ⟨first, copy, -, -, hcopy, -, hnode⟩ := h
  obtain ⟨hkind, hfields⟩ := Node.kind_and_fields_of_unnumbered_eq hcopy
  obtain ⟨node, path⟩ := inserted
  obtain rfl : node = _ := hnode
  cases below with
  | nil => exact Or.inl ⟨rfl, (Option.some.inj hfound).symm⟩
  | cons number rest =>
    right
    -- Below the copy itself, wherever it stands, the representative has twins.
    have htwin : ∀ {node : Node} {path : Path} {number : Nat} {rest : List Nat},
        Occurrence.at? ⟨node, path⟩ (number :: rest) = some found →
        node.kind = copy.kind → node.fields = copy.fields →
        ∃ inner, Occurrence.at? ⟨representative, []⟩ (number :: rest) = some inner ∧
          found.Twins inner := by
      intro node path number rest hat hsameKind hsameFields
      rw [← hsameFields] at hfields
      exact Occurrence.exists_twin_at? (List.cons_ne_nil _ _) (hsameKind.trans hkind) hfields hat
    -- Inside a wrapper there is the copy alone.
    have hwrapped : ∀ kind ∈ Kind.wrapperKinds, ∀ id,
        Occurrence.at? ⟨(Node.wrapper kind id copy).withAnchor target.anchor, path⟩
          (number :: rest) = some found →
        number :: rest = [0] ∧ found.violates = false ∨
        ∃ inside inner, number :: rest = [0] ++ inside ∧ inside ≠ [] ∧
          Occurrence.at? ⟨representative, []⟩ inside = some inner ∧ found.Twins inner := by
      intro kind hkindMem id hat
      obtain ⟨child, hchild, hrest⟩ := Occurrence.at?_cons_eq_some_iff.mp hat
      cases number with
      | succ number => cases hchild
      | zero =>
        obtain rfl := Option.some.inj hchild
        cases rest with
        | nil =>
          obtain rfl := Option.some.inj hrest
          exact Or.inl ⟨rfl, Slot.needsParens_of_mem_wrapperKinds hkindMem _ copy⟩
        | cons next rest =>
          obtain ⟨inner, hinner, htwins⟩ := htwin hrest rfl rfl
          exact Or.inr ⟨next :: rest, inner, rfl, List.cons_ne_nil _ _, hinner, htwins⟩
    cases hwrapping : slot.wrapping representative with
    | bare =>
      rw [hwrapping] at hfound
      obtain ⟨inner, hinner, htwins⟩ := htwin hfound rfl rfl
      exact Or.inr ⟨number :: rest, inner, rfl, List.cons_ne_nil _ _, hinner, htwins⟩
    | statement =>
      rw [hwrapping] at hfound
      exact hwrapped "ExpressionStatement" (by decide) _ hfound
    | parentheses =>
      rw [hwrapping] at hfound
      exact hwrapped "ParenthesizedExpression" (by decide) _ hfound

end Graft

/-! ### One pass -/

/-- The occurrence has an identity that a pass for the selector replaces. -/
def Selector.marks (selector : Selector) (tree : Tree) (occurrence : Occurrence) : Bool :=
  ((selector.evaluate tree).map Node.id).contains occurrence.node.id

namespace Graft

/-- What a pass that replaces the marked nodes does to operands.  Nodes that are neither marked nor
below a marked one stay. -/
structure Sound (marks : Occurrence → Bool) (representative : Node) (low high : Nat)
    (before after : Occurrence) : Prop where
  /-- A violation stood there before, between nodes that stay, or it is the image in a copy of a
  violation inside the representative. -/
  source : ∀ position found, after.at? position = some found → found.violates = true →
    (∃ same, before.at? position = some same ∧ same.isSpared marks = true ∧
      same.violates = true ∧ same.node.outline = found.node.outline ∧ same.trail = found.trail) ∨
    ∃ above inside target inner, before.at? above = some target ∧
      target.isTopmost marks = true ∧
      position = above ++ (target.slot.wrapping representative).way ++ inside ∧ inside ≠ [] ∧
      Occurrence.at? ⟨representative, []⟩ inside = some inner ∧ inner.violates = true ∧
      found.Twins inner
  /-- What is put in violates no slot, neither outermost nor inside of what is put around it. -/
  inserted : ∀ position target, before.at? position = some target →
    target.isTopmost marks = true → ∃ copy, after.at? position = some copy ∧
      Inserted representative target.node target.slot low high copy.node ∧
      copy.slot = target.slot ∧ copy.violates = false ∧
      ∀ inner, copy.at? (target.slot.wrapping representative).way = some inner →
        inner.violates = false
  /-- A node that stays violates its slot exactly if it did before, whatever is replaced below. -/
  spared : ∀ position same, before.at? position = some same → same.isSpared marks = true →
    ∃ found, after.at? position = some found ∧ found.node.outline = same.node.outline ∧
      found.trail = same.trail ∧ found.violates = same.violates

/-- A substitution is `Sound`: what `Substituted` says of positions, said of violations. -/
theorem Substituted.sound {marks : Occurrence → Bool} {representative : Node} {low high : Nat}
    {before after : Occurrence} (h : Substituted marks representative low high before after) :
    Sound marks representative low high before after where
  source position found hfound hviolates := by
    rcases h.covered position found hfound with
      ⟨same, hsame, hspared⟩ | ⟨above, below, target, rfl, htarget, htop⟩
    · obtain ⟨kept, hkept, houtline, htrail⟩ := h.kept position same hsame hspared
      obtain rfl := Option.some.inj (hkept.symm.trans hfound)
      rw [Occurrence.violates_of_look_eq (Occurrence.look_of_outline_eq houtline htrail)]
        at hviolates
      exact Or.inl ⟨same, hsame, hspared, hviolates, houtline.symm, htrail.symm⟩
    · obtain ⟨copy, hcopy, hinserted, htrail⟩ := h.replaced above target htarget htop
      have hslot := Occurrence.slot_of_trail_eq htrail
      rw [Occurrence.at?_append, hcopy] at hfound
      rcases hinserted.cases_at? hfound with
        ⟨-, rfl⟩ | ⟨-, hinner⟩ | ⟨inside, inner, rfl, hne, hinner, htwins⟩
      · -- the outermost node of what is put in
        rw [Occurrence.violates, hslot, hinserted.needsParens_eq_false] at hviolates
        cases hviolates
      · -- the copy in its wrapper
        rw [hinner] at hviolates
        cases hviolates
      · -- below the copy
        rw [Occurrence.violates_of_look_eq htwins.look_eq] at hviolates
        exact Or.inr ⟨above, inside, target, inner, htarget, htop, (List.append_assoc _ _ _).symm,
          hne, hinner, hviolates, htwins⟩
  inserted position target htarget htop := by
    obtain ⟨copy, hcopy, hinserted, htrail⟩ := h.replaced position target htarget htop
    have hslot := Occurrence.slot_of_trail_eq htrail
    have hcopyFits : copy.violates = false := by
      rw [Occurrence.violates, hslot]
      exact hinserted.needsParens_eq_false
    refine ⟨copy, hcopy, hinserted, hslot, hcopyFits, ?_⟩
    intro inner hinner
    rcases hinserted.cases_at? hinner with ⟨-, rfl⟩ | ⟨-, hfits⟩ | ⟨inside, _, hway, hne, -⟩
    · exact hcopyFits
    · exact hfits
    · exact absurd (List.append_right_eq_self.mp hway.symm) hne
  spared position same hsame hspared := by
    obtain ⟨found, hfound, houtline, htrail⟩ := h.kept position same hsame hspared
    exact ⟨found, hfound, houtline, htrail,
      Occurrence.violates_of_look_eq (Occurrence.look_of_outline_eq houtline htrail)⟩

end Graft

namespace Tree

/-- In any tree a pass substitutes at what has the identity of a match; identities need not be
distinct. -/
theorem substituted_graft (tree : Tree) (selector : Selector) (fragment : Fragment) :
    Graft.Substituted (selector.marks tree) fragment.representative tree.nextId
      (tree.graft selector fragment).tree.nextId ⟨tree.root, []⟩
      ⟨(tree.graft selector fragment).tree.root, []⟩ := by
  -- `marks` asks for the identity as the pass does, so the two agree without `Nodup`.
  have ready : Graft.Ready (Graft.planOf tree selector fragment) (selector.marks tree)
      ⟨tree.root, []⟩ :=
    { clear := fun _ habove => nomatch habove
      agree := fun _ _ => rfl }
  exact (Graft.substituted_visit ready ⟨tree.nextId, 0⟩).2 [] rfl

/-! ### Any number of passes -/

/-- The tree after some passes, one after another. -/
def after (tree : Tree) (passes : List (Selector × Fragment)) : Tree :=
  passes.foldl (fun tree pass => (tree.graft pass.1 pass.2).tree) tree

/-- **Every violation has a source**: the same pair of nodes in the first tree, or a violation that
looks the same inside the representative of one of the passes. -/
theorem exists_source_of_violation (tree : Tree) (passes : List (Selector × Fragment))
    {position : List Nat} {found : Occurrence}
    (hfound : Occurrence.at? ⟨(tree.after passes).root, []⟩ position = some found)
    (hviolates : found.violates = true) :
    (∃ same, Occurrence.at? ⟨tree.root, []⟩ position = some same ∧ same.violates = true ∧
      same.node.outline = found.node.outline ∧ same.trail = found.trail) ∨
    ∃ pass ∈ passes, ∃ inside inner, inside ≠ [] ∧
      Occurrence.at? ⟨pass.2.representative, []⟩ inside = some inner ∧ inner.violates = true ∧
      inner.look = found.look := by
  -- On the passes from the first on: the rest begins with the tree that the first one leaves.
  induction passes generalizing tree with
  | nil => exact Or.inl ⟨found, hfound, hviolates, rfl, rfl⟩
  | cons pass rest ih =>
    rcases ih (tree.graft pass.1 pass.2).tree hfound with
      ⟨between, hbetween, hviolatesBetween, houtline, htrail⟩ | ⟨later, hlater, hsource⟩
    · -- What was there after the first pass was there before it, or came with its copies.
      rcases (tree.substituted_graft pass.1 pass.2).sound.source position between hbetween
          hviolatesBetween with
        ⟨same, hsame, -, hviolatesSame, houtlineSame, htrailSame⟩ |
          ⟨_, inside, _, inner, -, -, -, hne, hinner, hviolatesInner, htwins⟩
      · exact Or.inl ⟨same, hsame, hviolatesSame, houtlineSame.trans houtline,
          htrailSame.trans htrail⟩
      · exact Or.inr ⟨pass, List.mem_cons_self, inside, inner, hne, hinner, hviolatesInner,
          htwins.look_eq.symm.trans (Occurrence.look_of_outline_eq houtline htrail)⟩
    · exact Or.inr ⟨later, List.mem_cons_of_mem _ hlater, hsource⟩

/-- **No pass introduces an operand that violates its slot.**  In the tree after any passes, every
violation goes back to the same pair of nodes in the first tree or to a violation inside a
representative.  One more pass leaves the violations among the nodes that stay as they are, adds
none where something is put in, and has all others from inside the representative.  It replaces at
what is marked, which are the matches where identities are distinct. -/
theorem graft_adds_no_violation (start : Tree) (passes : List (Selector × Fragment)) :
    (∀ position found, Occurrence.at? ⟨(start.after passes).root, []⟩ position = some found →
      found.violates = true →
      (∃ same, Occurrence.at? ⟨start.root, []⟩ position = some same ∧ same.violates = true ∧
        same.node.outline = found.node.outline ∧ same.trail = found.trail) ∨
      ∃ pass ∈ passes, ∃ inside inner, inside ≠ [] ∧
        Occurrence.at? ⟨pass.2.representative, []⟩ inside = some inner ∧ inner.violates = true ∧
        inner.look = found.look) ∧
    ∀ selector fragment,
      let tree := start.after passes
      let next := (tree.graft selector fragment).tree
      Graft.Sound (selector.marks tree) fragment.representative tree.nextId next.nextId
        ⟨tree.root, []⟩ ⟨next.root, []⟩ ∧
      (tree.root.ids.Nodup → ∀ found ∈ tree.root.occurrences [],
        selector.marks tree found = selector.holds found) :=
  ⟨fun _ _ hfound hviolates => exists_source_of_violation start passes hfound hviolates,
    fun selector fragment => ⟨((start.after passes).substituted_graft selector fragment).sound,
      fun distinct => (Graft.ready_of_distinct distinct selector fragment).agree⟩⟩

/-- A sum is put into a product, and sums again for each of its names: nothing in the result
violates its slot, because nothing in the product or in the sum does. -/
theorem graft_adds_no_violation_to_product :
    let start := ofParseTree Sample.product Sample.productTree
    let calls : Selector := ⟨Sample.calls, some [.compound (.mk (some "CallExpression") [] [])]⟩
    let names : Selector := ⟨[], some [.compound (.mk (some "Identifier") [] [])]⟩
    ∃ sum, Fragment.parse Sample.grammar Sample.sum = .ok sum ∧
      let tree := start.after [(calls, sum), (names, sum)]
      tree.print = "(c + d) * (c + d + (c + d))".toList ∧
        ∀ position found, Occurrence.at? ⟨tree.root, []⟩ position = some found →
          found.violates = false := by
  intro start calls names
  refine ⟨_, rfl, by decide +kernel, ?_⟩
  generalize hsum : Fragment.mk _ _ = sum
  have hstart : ∀ same ∈ start.root.occurrences [], same.violates = false := by decide +kernel
  have hinside : ∀ inner ∈ sum.representative.occurrences [], inner.violates = false := by
    rw [← hsum]
    decide +kernel
  intro position found hfound
  by_contra hviolates
  rw [Bool.not_eq_false] at hviolates
  rcases (graft_adds_no_violation start [(calls, sum), (names, sum)]).1 position found hfound
      hviolates with ⟨same, hsame, hsameViolates, -⟩ | ⟨pass, hpass, inside, inner, -, hinner,
        hinnerViolates, -⟩
  · have hmem := (@Occurrence.mem_occurrences_iff ⟨start.root, []⟩ same).mpr ⟨position, hsame⟩
    rw [hstart same hmem] at hsameViolates
    cases hsameViolates
  · have hrepresentative : pass.2 = sum := by
      rcases List.mem_pair.mp hpass with rfl | rfl <;> rfl
    rw [hrepresentative] at hinner
    have hmem := (@Occurrence.mem_occurrences_iff ⟨sum.representative, []⟩ inner).mpr
      ⟨inside, hinner⟩
    rw [hinside inner hmem] at hinnerViolates
    cases hinnerViolates

end Tree

end SyntaxGraft
