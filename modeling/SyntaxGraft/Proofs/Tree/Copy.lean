import SyntaxGraft.Graft.Slot
import SyntaxGraft.Proofs.Tree.Position
import SyntaxGraft.Tree.Print
/-!
# Copies

`Node.unnumbered` forgets the identities of a subtree; two subtrees are copies of each other when
they agree without them.  A renumbered subtree is a copy (`unnumbered_renumber`) whose identities
are the consecutive numbers from the first on (`ids_renumber`).

Identities serve only to tell nodes apart: what a node prints, how tightly it binds and whether it
needs parentheses is the same for all copies (`print_unnumbered`, `Slot.needsParens_unnumbered`).
-/

namespace SyntaxGraft

/-! ### Forgetting identities -/

namespace Node

mutual

/-- The subtree with all identities forgotten: every `id` is 0. -/
def unnumbered : Node → Node
  | .mk header fields => .mk { header with id := 0 } (unnumberedFields fields)

/-- The fields with all identities forgotten. -/
def unnumberedFields : List Field → List Field
  | [] => []
  | .mk name (.node child) :: rest => .mk name (.node child.unnumbered) :: unnumberedFields rest
  | .mk name (.nodes children) :: rest =>
    .mk name (.nodes (unnumberedNodes children)) :: unnumberedFields rest
  | .mk name (.scalar value) :: rest => .mk name (.scalar value) :: unnumberedFields rest

/-- The sequence with all identities forgotten. -/
def unnumberedNodes : List Node → List Node
  | [] => []
  | node :: rest => node.unnumbered :: unnumberedNodes rest

end

theorem unnumberedNodes_eq (nodes : List Node) : unnumberedNodes nodes = nodes.map unnumbered := by
  induction nodes with
  | nil => rfl
  | cons node rest ih => rw [unnumberedNodes, ih, List.map_cons]

end Node

/-- The value with all identities forgotten, as `Node.unnumberedFields` has it. -/
def Value.unnumbered : Value → Value
  | .node child => .node child.unnumbered
  | .nodes children => .nodes (children.map Node.unnumbered)
  | .scalar value => .scalar value

/-- The field with all identities forgotten. -/
def Field.unnumbered (field : Field) : Field :=
  .mk field.name field.value.unnumbered

theorem Value.children_unnumbered (value : Value) :
    value.unnumbered.children = value.children.map Node.unnumbered := by
  cases value <;> rfl

/-- Outlines (`Value.outline`) know nothing of identities below. -/
theorem Value.outline_unnumbered (value : Value) : value.unnumbered.outline = value.outline := by
  cases value with
  | node child => rfl
  | nodes children => simp [unnumbered, outline]
  | scalar value => rfl

namespace Node

theorem unnumberedFields_eq (fields : List Field) :
    unnumberedFields fields = fields.map Field.unnumbered := by
  induction fields with
  | nil => rfl
  | cons field rest ih =>
    obtain ⟨name, value⟩ := field
    cases value with
    | node child => rw [unnumberedFields, ih]; rfl
    | nodes children => rw [unnumberedFields, ih, unnumberedNodes_eq]; rfl
    | scalar value => rw [unnumberedFields, ih]; rfl

theorem header_unnumbered (node : Node) :
    node.unnumbered.header = { node.header with id := 0 } := by
  obtain ⟨header, fields⟩ := node
  rfl

theorem fields_unnumbered (node : Node) :
    node.unnumbered.fields = node.fields.map Field.unnumbered := by
  obtain ⟨header, fields⟩ := node
  exact unnumberedFields_eq fields

@[simp]
theorem kind_unnumbered (node : Node) : node.unnumbered.kind = node.kind := by
  rw [kind, header_unnumbered, kind]

@[simp]
theorem anchor_unnumbered (node : Node) : node.unnumbered.anchor = node.anchor := by
  rw [anchor, header_unnumbered, anchor]

theorem children_unnumbered (node : Node) :
    node.unnumbered.children = node.children.map unnumbered := by
  rw [children, Fields.children, fields_unnumbered, List.flatMap_map, children, Fields.children,
    List.map_flatMap]
  exact congrArg (List.flatMap · node.fields) (funext fun field => field.value.children_unnumbered)

theorem outline_fields_unnumbered (node : Node) :
    node.unnumbered.fields.map Field.outline = node.fields.map Field.outline := by
  rw [fields_unnumbered, List.map_map]
  apply List.map_congr_left
  intro field _
  show (field.name, field.value.unnumbered.outline) = (field.name, field.value.outline)
  rw [Value.outline_unnumbered]

/-- Forgetting identities keeps the nodes (`Node.nodes`) in place. -/
theorem nodes_unnumbered (node : Node) : node.unnumbered.nodes = node.nodes.map unnumbered := by
  induction node using Node.childrenInduction with
  | step header fields ih =>
    rw [nodes_eq, nodes_eq (.mk header fields), children_unnumbered, List.map_cons,
      List.map_flatMap, List.flatMap_map]
    exact congrArg _ (List.flatMap_congr ih)

/-- A node of a `copy` is a copy of a node of the `original`. -/
theorem exists_mem_nodes_of_unnumbered_eq {original copy node : Node}
    (h : copy.unnumbered = original.unnumbered) (hnode : node ∈ copy.nodes) :
    ∃ source ∈ original.nodes, source.unnumbered = node.unnumbered := by
  have hmem : node.unnumbered ∈ original.unnumbered.nodes := by
    rw [← h, nodes_unnumbered]
    exact List.mem_map_of_mem hnode
  rw [nodes_unnumbered] at hmem
  exact List.mem_map.mp hmem

/-! ### What identities do not decide -/

/-- The value of a name in a copy is a copy of the value. -/
theorem get?_unnumbered (node : Node) (name : String) :
    node.unnumbered.get? name = (node.get? name).map Value.unnumbered := by
  rw [get?, get?, fields_unnumbered]
  induction node.fields with
  | nil => rfl
  | cons field rest ih =>
    rw [List.map_cons, Fields.get?, Fields.get?, ih]
    show (if field.name = name then some field.value.unnumbered else _) = _
    split <;> rfl

@[simp]
theorem operator?_unnumbered (node : Node) : node.unnumbered.operator? = node.operator? := by
  unfold operator?
  rw [get?_unnumbered]
  cases node.get? "operator" with
  | none => rfl
  | some value => cases value <;> rfl

@[simp]
theorem level_unnumbered (node : Node) : node.unnumbered.level = node.level := by
  unfold level
  rw [kind_unnumbered, operator?_unnumbered, get?_unnumbered, Option.isNone_map]

theorem printNodes_eq (nodes : List Node) :
    printNodes nodes = nodes.map fun node => ⟨node.anchor, node.print⟩ := by
  induction nodes with
  | nil => rfl
  | cons node rest ih => rw [printNodes, ih, List.map_cons]

theorem print_withAnchor (node : Node) (range : Option ByteRange) :
    (node.withAnchor range).print = node.print := by
  obtain ⟨header, fields⟩ := node
  rfl

/-- Copies print alike: the printer reads no `id`. -/
theorem print_unnumbered (node : Node) : node.unnumbered.print = node.print := by
  induction node using Node.childrenInduction with
  | step header fields ih =>
    -- The printer goes through the fields, and prints each child where it comes to it.
    have hfields : printFields (unnumberedFields fields) = printFields fields := by
      induction fields with
      | nil => rfl
      | cons field rest ihRest =>
        obtain ⟨name, value⟩ := field
        have hrest := ihRest fun child hchild => ih child (by simp [hchild])
        cases value with
        | node child =>
          rw [unnumberedFields, printFields, printFields, hrest, anchor_unnumbered,
            ih child (by simp)]
        | nodes children =>
          have hnodes : printNodes (children.map unnumbered) = printNodes children := by
            rw [printNodes_eq, printNodes_eq, List.map_map]
            apply List.map_congr_left
            intro child hchild
            simp [ih child (by simp [hchild])]
          rw [unnumberedFields, unnumberedNodes_eq, printFields, printFields, hrest, hnodes]
        | scalar value => rw [unnumberedFields, printFields, printFields, hrest]
    rw [unnumbered, print, hfields]
    rfl

end Node

@[simp]
theorem Slot.needsParens_unnumbered (slot : Slot) (node : Node) :
    slot.needsParens node.unnumbered = slot.needsParens node := by
  unfold Slot.needsParens
  rw [Node.level_unnumbered, Node.kind_unnumbered, Node.operator?_unnumbered]

/-! ### Renumbering -/

namespace Node

/-- Renumbering fields is renumbering their children in order. -/
theorem renumberFields_children (fields : List Field) (next : Nat) :
    Fields.children (renumberFields fields next).1
        = (renumberNodes (Fields.children fields) next).1 ∧
      (renumberFields fields next).2 = (renumberNodes (Fields.children fields) next).2 := by
  have happend : ∀ (nodes others : List Node) (next : Nat),
      renumberNodes (nodes ++ others) next =
        ((renumberNodes nodes next).1 ++ (renumberNodes others (renumberNodes nodes next).2).1,
          (renumberNodes others (renumberNodes nodes next).2).2) := by
    intro nodes others
    induction nodes with
    | nil => intro next; rfl
    | cons node rest ih => intro next; simp only [List.cons_append, renumberNodes, ih]
  induction fields generalizing next with
  | nil => exact ⟨rfl, rfl⟩
  | cons field rest ih =>
    obtain ⟨name, value⟩ := field
    cases value with
    | node child =>
      obtain ⟨hchildren, hnext⟩ := ih (child.renumber next).2
      simp [renumberFields, renumberNodes, hchildren, hnext]
    | nodes children =>
      obtain ⟨hchildren, hnext⟩ := ih (renumberNodes children next).2
      simp [renumberFields, happend, hchildren, hnext]
    | scalar value =>
      obtain ⟨hchildren, hnext⟩ := ih next
      simp [renumberFields, hchildren, hnext]

mutual

/-- A renumbered subtree is a copy, by recursion over nodes, fields and sequences. -/
theorem unnumbered_renumber : ∀ (node : Node) (next : Nat),
    (node.renumber next).1.unnumbered = node.unnumbered
  | .mk header fields, next => by
    rw [renumber, unnumbered, unnumbered]
    show Node.mk _ (unnumberedFields (renumberFields fields (next + 1)).1) = _
    rw [unnumberedFields_renumberFields fields (next + 1)]

theorem unnumberedFields_renumberFields : ∀ (fields : List Field) (next : Nat),
    unnumberedFields (renumberFields fields next).1 = unnumberedFields fields
  | [], next => rfl
  | .mk name (.node child) :: rest, next => by
    simp only [renumberFields, unnumberedFields]
    rw [unnumbered_renumber child, unnumberedFields_renumberFields rest]
  | .mk name (.nodes children) :: rest, next => by
    simp only [renumberFields, unnumberedFields]
    rw [unnumberedNodes_renumberNodes children, unnumberedFields_renumberFields rest]
  | .mk name (.scalar value) :: rest, next => by
    simp only [renumberFields, unnumberedFields]
    rw [unnumberedFields_renumberFields rest]

theorem unnumberedNodes_renumberNodes : ∀ (nodes : List Node) (next : Nat),
    unnumberedNodes (renumberNodes nodes next).1 = unnumberedNodes nodes
  | [], next => rfl
  | node :: rest, next => by
    simp only [renumberNodes, unnumberedNodes]
    rw [unnumbered_renumber node, unnumberedNodes_renumberNodes rest]

end

/-- A copy (`renumber`) takes the consecutive identities from the first on, in pre-order. -/
theorem ids_renumber (node : Node) (next : Nat) :
    (node.renumber next).1.ids = List.range' next node.size ∧
      (node.renumber next).2 = next + node.size := by
  induction node using Node.childrenInduction generalizing next with
  | step header fields ih =>
    -- Over a list of subtrees the blocks follow one another.
    have hnodes : ∀ nodes : List Node, (∀ node ∈ nodes, node ∈ Fields.children fields) →
        ∀ next, (renumberNodes nodes next).1.flatMap ids = List.range' next (nodes.map size).sum ∧
          (renumberNodes nodes next).2 = next + (nodes.map size).sum := by
      intro nodes
      induction nodes with
      | nil => intro _ next; exact ⟨rfl, rfl⟩
      | cons node rest ihRest =>
        intro hmem next
        obtain ⟨hids, hnext⟩ := ih node (hmem node List.mem_cons_self) next
        obtain ⟨hidsRest, hnextRest⟩ :=
          ihRest (fun other hother => hmem other (List.mem_cons_of_mem _ hother))
            (node.renumber next).2
        rw [hnext] at hidsRest hnextRest
        simp only [renumberNodes, List.flatMap_cons, List.map_cons, List.sum_cons, hids, hnext]
        rw [hidsRest, hnextRest, List.range'_append_1]
        exact ⟨rfl, by omega⟩
    obtain ⟨hids, hnext⟩ := hnodes (Fields.children fields) (fun _ h => h) (next + 1)
    obtain ⟨hchildren, hafter⟩ := renumberFields_children fields (next + 1)
    rw [size_eq, children_mk]
    constructor
    · rw [ids_eq, renumber]
      show next :: (Fields.children (renumberFields fields (next + 1)).1).flatMap ids = _
      rw [hchildren, hids, Nat.add_comm 1, List.range'_succ]
    · rw [renumber]
      show (renumberFields fields (next + 1)).2 = _
      rw [hafter, hnext]
      omega

theorem header_renumber (node : Node) (next : Nat) :
    (node.renumber next).1.header = { node.header with id := next } := by
  obtain ⟨header, fields⟩ := node
  rfl

/-- What decides about a wrapper is the same for a copy. -/
theorem kind_renumber (node : Node) (next : Nat) : (node.renumber next).1.kind = node.kind := by
  rw [kind, header_renumber, kind]

end Node

theorem Slot.needsParens_renumber (slot : Slot) (node : Node) (next : Nat) :
    slot.needsParens (node.renumber next).1 = slot.needsParens node := by
  rw [← Slot.needsParens_unnumbered, Node.unnumbered_renumber, Slot.needsParens_unnumbered]

end SyntaxGraft
