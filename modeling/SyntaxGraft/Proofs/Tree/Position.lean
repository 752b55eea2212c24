import SyntaxGraft.Tree.Occurrence
import Mathlib.Algebra.Ring.Nat
import Mathlib.Data.List.Nodup
/-!
# Positions in a tree

The functions on nodes recurse through fields, single nodes and sequences.  Here a node is seen as a
tree with a plain list of children: `Node.childrenInduction` is induction over that list, and
`Occurrence.children` is the same list with the slot of each child.

A position is the list of child numbers that leads to it (`Occurrence.at?`); the occurrences below a
node are those at its positions (`Occurrence.mem_occurrences_iff`).  Where all identities differ, an
occurrence is known by its identity (`Node.eq_of_id_eq`).

`Occurrence.topmost` lists the occurrences with a property that no ancestor has; from an occurrence
without such ancestors it stops at the first ones on the way down (`topmost_of_holds`,
`topmost_of_not_holds`).
-/

namespace SyntaxGraft

/-! ### Children -/

namespace Value

@[simp]
theorem children_node (child : Node) : (Value.node child).children = [child] := rfl

@[simp]
theorem children_nodes (children : List Node) : (Value.nodes children).children = children := rfl

@[simp]
theorem children_scalar (value : Scalar) : (Value.scalar value).children = [] := rfl

end Value

namespace Fields

@[simp]
theorem children_nil : children [] = [] := rfl

@[simp]
theorem children_cons (field : Field) (rest : List Field) :
    children (field :: rest) = field.value.children ++ children rest := rfl

@[simp]
theorem children_append (fields others : List Field) :
    children (fields ++ others) = children fields ++ children others :=
  List.flatMap_append

end Fields

namespace Node

@[simp]
theorem children_mk (header : Header) (fields : List Field) :
    (Node.mk header fields).children = Fields.children fields := rfl

@[simp]
theorem children_withAnchor (node : Node) (range : Option ByteRange) :
    (node.withAnchor range).children = node.children := rfl

@[simp]
theorem children_wrapper (kind : String) (id : Nat) (expression : Node) :
    (wrapper kind id expression).children = [expression] := rfl

mutual

/-- **Induction over children.**  A property that passes from the children of a node to the node
holds of every node. -/
theorem childrenInduction {P : Node → Prop}
    (step : ∀ header fields, (∀ child ∈ Fields.children fields, P child) → P (.mk header fields)) :
    ∀ node, P node
  | .mk header fields => step header fields (childrenInductionFields step fields)

theorem childrenInductionFields {P : Node → Prop}
    (step : ∀ header fields, (∀ child ∈ Fields.children fields, P child) → P (.mk header fields)) :
    ∀ fields, ∀ child ∈ Fields.children fields, P child
  | [] => by simp
  | .mk name (.node only) :: rest => by
    intro child hchild
    rcases List.mem_cons.mp hchild with honly | hrest
    · exact honly ▸ childrenInduction step only
    · exact childrenInductionFields step rest child hrest
  | .mk name (.nodes nodes) :: rest => by
    intro child hchild
    rcases List.mem_append.mp hchild with hnodes | hrest
    · exact childrenInductionNodes step nodes child hnodes
    · exact childrenInductionFields step rest child hrest
  | .mk name (.scalar _) :: rest => childrenInductionFields step rest

theorem childrenInductionNodes {P : Node → Prop}
    (step : ∀ header fields, (∀ child ∈ Fields.children fields, P child) → P (.mk header fields)) :
    ∀ nodes : List Node, ∀ child ∈ nodes, P child
  | [] => by simp
  | node :: rest => by
    intro child hchild
    rcases List.mem_cons.mp hchild with hnode | hrest
    · exact hnode ▸ childrenInduction step node
    · exact childrenInductionNodes step rest child hrest

end

end Node

/-! ### Outlines -/

/-- What a value is, apart from the nodes it holds. -/
inductive ValueOutline where
  | one
  | many (count : Nat)
  | scalar (value : Scalar)

/-- The value without its nodes. -/
def Value.outline : Value → ValueOutline
  | .node _ => .one
  | .nodes children => .many children.length
  | .scalar value => .scalar value

/-- The name of a field and its value without nodes. -/
def Field.outline (field : Field) : String × ValueOutline :=
  (field.name, field.value.outline)

/-- The labels of the nodes that a value of this outline holds in a field (`Step.label`). -/
def ValueOutline.labels (name : String) : ValueOutline → List (Option (String × Option Nat))
  | .one => [some (name, none)]
  | .many count => (List.range count).map fun index => some (name, some index)
  | .scalar _ => []

/-- What a node is, apart from the nodes below it: its header, the names of its fields in order, its
scalars, and how many nodes each field holds. -/
def Node.outline (node : Node) : Header × List (String × ValueOutline) :=
  (node.header, node.fields.map Field.outline)

/-! ### Slots -/

/-- The slot in the words of the parent: the field and the index in it. -/
def Step.label (step : Step) : String × Option Nat :=
  (step.field, step.index)

/-- The occurrences of the nodes of one field. -/
def Field.occurrences (parent : Node) (path : Path) (field : Field) : List Occurrence :=
  match field.value with
  | .node child => [⟨child, ⟨parent, field.name, none⟩ :: path⟩]
  | .nodes children =>
    children.mapIdx fun index child => ⟨child, ⟨parent, field.name, some index⟩ :: path⟩
  | .scalar _ => []

namespace Occurrence

/-- The children of an occurrence, in field order, as `Node.children` has them. -/
def children (occurrence : Occurrence) : List Occurrence :=
  occurrence.node.fields.flatMap (Field.occurrences occurrence.node occurrence.path)

/-- The label of the last step to the occurrence. -/
def label? (occurrence : Occurrence) : Option (String × Option Nat) :=
  occurrence.path.head?.map Step.label

/-- The steps to the occurrence, each with what its parent is apart from the nodes below. -/
def trail (occurrence : Occurrence) : List ((Header × List (String × ValueOutline)) ×
    String × Option Nat) :=
  occurrence.path.map fun step => (step.parent.outline, step.label)

end Occurrence

theorem Field.map_node_occurrences (parent : Node) (path : Path) (field : Field) :
    (field.occurrences parent path).map Occurrence.node = field.value.children := by
  unfold Field.occurrences
  cases field.value with
  | node child => rfl
  | nodes children =>
    apply List.ext_getElem?
    intro index
    cases h : children[index]? <;> simp [h]
  | scalar value => rfl

/-- The labels of a field's nodes do not depend on what these nodes are. -/
theorem Field.map_label?_occurrences (parent : Node) (path : Path) (field : Field) :
    (field.occurrences parent path).map Occurrence.label?
      = field.outline.2.labels field.outline.1 := by
  unfold Field.occurrences Field.outline
  cases field.value with
  | node child => rfl
  | nodes children =>
    show _ = (List.range children.length).map fun index => some (field.name, some index)
    apply List.ext_getElem?
    intro index
    by_cases h : index < children.length
    · simp [h, Occurrence.label?, Step.label]
    · simp [h]
  | scalar value => rfl

/-- Every occurrence of a field is one `Step` below its parent. -/
theorem Field.path_of_mem_occurrences {parent : Node} {path : Path} {field : Field}
    {occurrence : Occurrence} (h : occurrence ∈ field.occurrences parent path) :
    ∃ index, occurrence.path = ⟨parent, field.name, index⟩ :: path := by
  unfold Field.occurrences at h
  cases hvalue : field.value with
  | node child =>
    rw [hvalue] at h
    exact ⟨none, by rw [List.mem_singleton.mp h]⟩
  | nodes children =>
    rw [hvalue] at h
    obtain ⟨index, _, rfl⟩ := List.mem_mapIdx.mp h
    exact ⟨some index, rfl⟩
  | scalar value =>
    rw [hvalue] at h
    exact absurd h (List.not_mem_nil)

namespace Occurrence

theorem map_node_children (occurrence : Occurrence) :
    occurrence.children.map Occurrence.node = occurrence.node.children := by
  unfold children Node.children Fields.children
  rw [List.map_flatMap]
  exact congrArg (List.flatMap · occurrence.node.fields)
    (funext fun field => field.map_node_occurrences _ _)

theorem node_mem_children {occurrence child : Occurrence} (h : child ∈ occurrence.children) :
    child.node ∈ occurrence.node.children := by
  rw [← map_node_children]
  exact List.mem_map_of_mem h

theorem path_of_mem_children {occurrence child : Occurrence} (h : child ∈ occurrence.children) :
    ∃ field index, child.path = ⟨occurrence.node, field, index⟩ :: occurrence.path := by
  obtain ⟨field, -, hfield⟩ := List.mem_flatMap.mp h
  obtain ⟨index, hpath⟩ := Field.path_of_mem_occurrences hfield
  exact ⟨field.name, index, hpath⟩

/-- The ancestors of a child are its parent and the ancestors of its parent. -/
theorem ancestors_of_mem_children {occurrence child : Occurrence}
    (h : child ∈ occurrence.children) :
    child.ancestors = occurrence :: occurrence.ancestors := by
  obtain ⟨field, index, hpath⟩ := path_of_mem_children h
  rw [ancestors, hpath]
  rfl

/-- The labels of the children follow from the outline of the parent. -/
theorem map_label?_children (occurrence : Occurrence) :
    occurrence.children.map label?
      = occurrence.node.outline.2.flatMap fun field => field.2.labels field.1 := by
  show (occurrence.node.fields.flatMap _).map label? = (occurrence.node.fields.map _).flatMap _
  rw [List.map_flatMap, List.flatMap_map]
  exact congrArg (List.flatMap · occurrence.node.fields)
    (funext fun field => field.map_label?_occurrences _ _)

/-- Where two nodes have the same outline and the same trail, their children have the same `trail`.
-/
theorem exists_child_of_outline_eq {occurrence other child : Occurrence} {number : Nat}
    (houtline : other.node.outline = occurrence.node.outline)
    (htrail : other.trail = occurrence.trail) (h : occurrence.children[number]? = some child) :
    ∃ twin, other.children[number]? = some twin ∧ twin.trail = child.trail := by
  have hlabels : other.children.map label? = occurrence.children.map label? := by
    rw [map_label?_children, map_label?_children, houtline]
  have hlabel : (other.children.map label?)[number]? = some child.label? := by
    rw [hlabels, List.getElem?_map, h]
    rfl
  rw [List.getElem?_map] at hlabel
  obtain ⟨twin, htwin, hsame⟩ := Option.map_eq_some_iff.mp hlabel
  refine ⟨twin, htwin, ?_⟩
  -- Both trails are the parent's, with one more step of the same label.
  obtain ⟨field, index, hpath⟩ := path_of_mem_children (List.mem_of_getElem? h)
  obtain ⟨field', index', hpath'⟩ := path_of_mem_children (List.mem_of_getElem? htwin)
  rw [label?, label?, hpath, hpath'] at hsame
  obtain ⟨rfl, rfl⟩ := Prod.mk.inj (Option.some.inj hsame)
  unfold trail at htrail ⊢
  rw [hpath, hpath', List.map_cons, List.map_cons, htrail, houtline]
  rfl

/-- **Induction over occurrences.**  What passes from the children of an occurrence to the
occurrence holds of all, since the nodes get smaller (`Node.childrenInduction`). -/
theorem childrenInduction {P : Occurrence → Prop}
    (step : ∀ occurrence : Occurrence, (∀ child ∈ occurrence.children, P child) → P occurrence) :
    ∀ occurrence, P occurrence := by
  have h : ∀ node : Node, ∀ path, P ⟨node, path⟩ := by
    intro node
    induction node using Node.childrenInduction with
    | step header fields ih =>
      intro path
      apply step
      intro child hchild
      exact ih child.node (node_mem_children hchild) child.path
  exact fun occurrence => h occurrence.node occurrence.path

end Occurrence

/-! ### Everything below a node -/

namespace Node

/-- The occurrences of a sequence, each with what is below it. -/
theorem occurrencesInSequence_eq (parent : Node) (path : Path) (name : String) (start : Nat)
    (nodes : List Node) :
    occurrencesInSequence parent path name start nodes
      = (nodes.mapIdx fun index child =>
          (⟨child, ⟨parent, name, some (start + index)⟩ :: path⟩ : Occurrence)).flatMap
        fun child => child.node.occurrences child.path := by
  induction nodes generalizing start with
  | nil => simp [occurrencesInSequence]
  | cons node rest ih =>
    rw [occurrencesInSequence, ih, List.mapIdx_cons, List.flatMap_cons]
    simp only [Nat.add_zero, Nat.add_assoc, Nat.add_comm 1]

/-- The walk over fields visits the children of the node, each with what is below it. -/
theorem occurrencesInFields_eq (parent : Node) (path : Path) (fields : List Field) :
    occurrencesInFields parent path fields
      = (fields.flatMap (Field.occurrences parent path)).flatMap
        fun child => child.node.occurrences child.path := by
  induction fields with
  | nil => simp [occurrencesInFields]
  | cons field rest ih =>
    obtain ⟨name, value⟩ := field
    rw [List.flatMap_cons, List.flatMap_append, ← ih]
    cases value with
    | node child => simp [occurrencesInFields, Field.occurrences]
    | nodes children =>
      rw [occurrencesInFields, occurrencesInSequence_eq]
      simp [Field.occurrences]
    | scalar value => simp [occurrencesInFields, Field.occurrences]

end Node

namespace Occurrence

theorem descendants_eq (occurrence : Occurrence) :
    occurrence.descendants
      = occurrence.children.flatMap fun child => child.node.occurrences child.path :=
  Node.occurrencesInFields_eq _ _ _

theorem occurrences_eq (occurrence : Occurrence) :
    occurrence.node.occurrences occurrence.path = occurrence :: occurrence.descendants := by
  obtain ⟨⟨header, fields⟩, path⟩ := occurrence
  rfl

/-- The occurrence at a position: from each node on, the child of the next number (`children`). -/
def at? (occurrence : Occurrence) : List Nat → Option Occurrence
  | [] => some occurrence
  | number :: rest => occurrence.children[number]?.bind fun child => child.at? rest

theorem at?_cons_eq_some_iff {occurrence found : Occurrence} {number : Nat} {rest : List Nat} :
    occurrence.at? (number :: rest) = some found ↔
      ∃ child, occurrence.children[number]? = some child ∧ child.at? rest = some found :=
  Option.bind_eq_some_iff

/-- What is below an occurrence, itself included, is what stands at its positions. -/
theorem mem_occurrences_iff {occurrence found : Occurrence} :
    found ∈ occurrence.node.occurrences occurrence.path ↔
      ∃ position, occurrence.at? position = some found := by
  induction occurrence using Occurrence.childrenInduction with
  | step occurrence ih =>
    rw [occurrences_eq, descendants_eq, List.mem_cons, List.mem_flatMap]
    -- The empty position is the occurrence itself; a longer one begins with the number of a child.
    constructor
    · rintro (rfl | ⟨child, hchild, hfound⟩)
      · exact ⟨[], rfl⟩
      · obtain ⟨number, hnumber⟩ := List.mem_iff_getElem?.mp hchild
        obtain ⟨rest, hrest⟩ := (ih child hchild).mp hfound
        exact ⟨number :: rest, at?_cons_eq_some_iff.mpr ⟨child, hnumber, hrest⟩⟩
    · rintro ⟨_ | ⟨number, rest⟩, h⟩
      · exact Or.inl (Option.some.inj h).symm
      · obtain ⟨child, hnumber, hrest⟩ := at?_cons_eq_some_iff.mp h
        have hchild := List.mem_of_getElem? hnumber
        exact Or.inr ⟨child, hchild, (ih child hchild).mpr ⟨rest, hrest⟩⟩

end Occurrence

namespace Node

/-- The nodes of a subtree, in pre-order (`Node.occurrences`). -/
def nodes (node : Node) : List Node :=
  (node.occurrences []).map Occurrence.node

/-- The identities of a subtree (`Node.id`), in pre-order. -/
def ids (node : Node) : List Nat :=
  node.nodes.map Node.id

/-- The nodes below an occurrence do not depend on the path to it. -/
theorem map_node_occurrences (node : Node) (path : Path) :
    (node.occurrences path).map Occurrence.node = node :: node.children.flatMap nodes := by
  induction node using Node.childrenInduction generalizing path with
  | step header fields ih =>
    have hnodes : ∀ child ∈ (⟨.mk header fields, path⟩ : Occurrence).children,
        (child.node.occurrences child.path).map Occurrence.node = child.node.nodes := by
      intro child hchild
      have hmem := Occurrence.node_mem_children hchild
      rw [nodes, ih child.node hmem, ih child.node hmem]
    rw [Occurrence.occurrences_eq ⟨.mk header fields, path⟩, Occurrence.descendants_eq,
      List.map_cons, List.map_flatMap, List.flatMap_congr hnodes, ← Occurrence.map_node_children
      ⟨.mk header fields, path⟩, List.flatMap_map]

theorem nodes_eq (node : Node) : node.nodes = node :: node.children.flatMap nodes :=
  node.map_node_occurrences []

theorem self_mem_nodes (node : Node) : node ∈ node.nodes := by
  rw [nodes_eq]
  exact List.mem_cons_self

theorem mem_nodes_iff {node found : Node} :
    found ∈ node.nodes ↔ found = node ∨ ∃ child ∈ node.children, found ∈ child.nodes := by
  rw [nodes_eq, List.mem_cons, List.mem_flatMap]

theorem mem_nodes_of_child {node child found : Node} (hchild : child ∈ node.children)
    (h : found ∈ child.nodes) : found ∈ node.nodes :=
  mem_nodes_iff.mpr (Or.inr ⟨child, hchild, h⟩)

/-- What is below a node `between` of a tree is in the tree. -/
theorem mem_nodes_trans {node between found : Node} (hbetween : between ∈ node.nodes)
    (h : found ∈ between.nodes) : found ∈ node.nodes := by
  induction node using Node.childrenInduction with
  | step header fields ih =>
    rcases mem_nodes_iff.mp hbetween with rfl | ⟨child, hchild, hbelow⟩
    · exact h
    · exact mem_nodes_of_child hchild (ih child hchild hbelow)

theorem ids_eq (node : Node) : node.ids = node.id :: node.children.flatMap ids := by
  rw [ids, nodes_eq, List.map_cons, List.map_flatMap]
  rfl

theorem ids_withAnchor (node : Node) (range : Option ByteRange) :
    (node.withAnchor range).ids = node.ids := by
  rw [ids_eq, ids_eq, children_withAnchor]
  rfl

/-- Where all identities differ, an occurrence is known by its identity. -/
theorem eq_of_id_eq {root : Node} (distinct : root.ids.Nodup) {occurrence other : Occurrence}
    (h : occurrence ∈ root.occurrences []) (hother : other ∈ root.occurrences [])
    (hid : occurrence.node.id = other.node.id) : occurrence = other := by
  rw [ids, nodes, List.map_map] at distinct
  exact List.inj_on_of_nodup_map distinct h hother hid

/-! ### Size -/

theorem sizeOfNodes_eq (nodes : List Node) : sizeOfNodes nodes = (nodes.map size).sum := by
  induction nodes with
  | nil => rfl
  | cons node rest ih => rw [sizeOfNodes, ih, List.map_cons, List.sum_cons]

theorem sizeOfFields_eq (fields : List Field) :
    sizeOfFields fields = ((Fields.children fields).map size).sum := by
  induction fields with
  | nil => rfl
  | cons field rest ih =>
    obtain ⟨name, value⟩ := field
    rw [Fields.children_cons, List.map_append, List.sum_append, ← ih]
    cases value with
    | node child => simp [sizeOfFields]
    | nodes children => simp [sizeOfFields, sizeOfNodes_eq]
    | scalar value => simp [sizeOfFields]

theorem size_eq (node : Node) : node.size = 1 + (node.children.map size).sum := by
  obtain ⟨header, fields⟩ := node
  rw [size, sizeOfFields_eq, children_mk]

theorem size_withAnchor (node : Node) (range : Option ByteRange) :
    (node.withAnchor range).size = node.size := by
  rw [size_eq, size_eq, children_withAnchor]

/-- There is one identity for each node that `Node.size` counts. -/
theorem length_ids (node : Node) : node.ids.length = node.size := by
  induction node using Node.childrenInduction with
  | step header fields ih =>
    rw [ids_eq, size_eq, children_mk, List.length_cons, List.length_flatMap, Nat.add_comm,
      List.map_congr_left ih]

end Node

/-! ### Topmost occurrences -/

namespace Occurrence

variable {holds : Occurrence → Bool} {occurrence : Occurrence}

/-- The occurrence has a property that none of its ancestors has. -/
def isTopmost (holds : Occurrence → Bool) (occurrence : Occurrence) : Bool :=
  holds occurrence && !occurrence.ancestors.any holds

/-- Neither the occurrence nor any of its ancestors has a property. -/
def isSpared (holds : Occurrence → Bool) (occurrence : Occurrence) : Bool :=
  !holds occurrence && !occurrence.ancestors.any holds

/-- The topmost occurrences with a property from here on, in pre-order. -/
def topmost (holds : Occurrence → Bool) (occurrence : Occurrence) : List Occurrence :=
  (occurrence.node.occurrences occurrence.path).filter (isTopmost holds)

theorem isTopmost_iff :
    occurrence.isTopmost holds = true ↔
      holds occurrence = true ∧ ∀ above ∈ occurrence.ancestors, holds above = false := by
  simp [isTopmost]

theorem isSpared_iff :
    occurrence.isSpared holds = true ↔
      holds occurrence = false ∧ ∀ above ∈ occurrence.ancestors, holds above = false := by
  simp [isSpared]

/-- The ancestors of an occurrence are ancestors of everything below it. -/
theorem mem_ancestors_of_mem_ancestors {found above : Occurrence}
    (h : found ∈ occurrence.descendants) (habove : above ∈ occurrence.ancestors) :
    above ∈ found.ancestors := by
  induction occurrence using Occurrence.childrenInduction with
  | step occurrence ih =>
    rw [descendants_eq] at h
    obtain ⟨child, hchild, hfound⟩ := List.mem_flatMap.mp h
    have habove' : above ∈ child.ancestors := by
      rw [ancestors_of_mem_children hchild]
      exact List.mem_cons_of_mem _ habove
    rw [occurrences_eq] at hfound
    rcases List.mem_cons.mp hfound with rfl | hbelow
    · exact habove'
    · exact ih child hchild hbelow habove'

/-- An occurrence is an ancestor of everything below it. -/
theorem mem_ancestors_of_mem_descendants {found : Occurrence}
    (h : found ∈ occurrence.descendants) : occurrence ∈ found.ancestors := by
  rw [descendants_eq] at h
  obtain ⟨child, hchild, hfound⟩ := List.mem_flatMap.mp h
  have hparent : occurrence ∈ child.ancestors := by
    rw [ancestors_of_mem_children hchild]
    exact List.mem_cons_self
  rw [occurrences_eq] at hfound
  rcases List.mem_cons.mp hfound with rfl | hbelow
  · exact hparent
  · exact mem_ancestors_of_mem_ancestors hbelow hparent

/-- An occurrence with the property hides everything below it, being an ancestor of all that. -/
theorem topmost_of_holds (clear : ∀ above ∈ occurrence.ancestors, holds above = false)
    (h : holds occurrence = true) : occurrence.topmost holds = [occurrence] := by
  have hbelow : occurrence.descendants.filter (isTopmost holds) = [] := by
    rw [List.filter_eq_nil_iff]
    intro found hfound htop
    have hclear := (isTopmost_iff.mp htop).2 occurrence (mem_ancestors_of_mem_descendants hfound)
    rw [h] at hclear
    cases hclear
  rw [topmost, occurrences_eq, List.filter_cons, hbelow, if_pos (isTopmost_iff.mpr ⟨h, clear⟩)]

/-- Below an occurrence without the property the `topmost` ones are those of its children. -/
theorem topmost_of_not_holds (h : holds occurrence = false) :
    occurrence.topmost holds = occurrence.children.flatMap (topmost holds) := by
  have hself : ¬ occurrence.isTopmost holds = true := by
    intro htop
    rw [isTopmost_iff, h] at htop
    cases htop.1
  rw [topmost, occurrences_eq, List.filter_cons, if_neg hself, descendants_eq, List.filter_flatMap]
  rfl

/-- Nothing above a child has the property, when neither its parent nor anything above has it. -/
theorem clear_of_mem_children {child : Occurrence} (hchild : child ∈ occurrence.children)
    (clear : ∀ above ∈ occurrence.ancestors, holds above = false)
    (h : holds occurrence = false) : ∀ above ∈ child.ancestors, holds above = false := by
  rw [ancestors_of_mem_children hchild]
  intro above habove
  rcases List.mem_cons.mp habove with rfl | habove
  · exact h
  · exact clear above habove

/-- What stands at a position (`at?`) below an occurrence has the occurrence among its ancestors. -/
theorem mem_ancestors_of_at?_cons {found : Occurrence} {number : Nat} {rest : List Nat}
    (h : occurrence.at? (number :: rest) = some found) : occurrence ∈ found.ancestors := by
  obtain ⟨child, hchild, hfound⟩ := at?_cons_eq_some_iff.mp h
  apply mem_ancestors_of_mem_descendants
  rw [descendants_eq]
  exact List.mem_flatMap.mpr
    ⟨child, List.mem_of_getElem? hchild, mem_occurrences_iff.mpr ⟨rest, hfound⟩⟩

end Occurrence

end SyntaxGraft
