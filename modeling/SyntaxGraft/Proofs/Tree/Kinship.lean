import SyntaxGraft.Proofs.Tree.Position
import Mathlib.Logic.Relation
/-!
# Parents, ancestors and siblings

How two occurrences in a tree stand to each other, said of the tree alone.  A parent has the other
in one of its slots (`Occurrence.IsParent`), an ancestor is a parent over some steps
(`Occurrence.IsAncestor`), and siblings are elements of one sequence of one parent
(`Occurrence.IsElement`).

An occurrence reads its kin from its path.  In a tree whose nodes have fields of distinct names this
reading is right: `mem_ancestors_iff`, `mem_earlierSiblings_iff` and `position?_eq_some_iff` say
what the path gives in terms of the tree.
-/

namespace SyntaxGraft

/-- The fields of every node of a tree have distinct names (`Field.name`). -/
def Node.FieldsDistinct (root : Node) : Prop :=
  ∀ node ∈ root.nodes, (node.fields.map Field.name).Nodup

/-- Where names are distinct, a field is found by its name (`Fields.get?`). -/
theorem Fields.get?_of_mem {fields : List Field} (distinct : (fields.map Field.name).Nodup)
    {name : String} {value : Value} (h : Field.mk name value ∈ fields) :
    get? name fields = some value := by
  induction fields with
  | nil => cases h
  | cons field rest ih =>
    rw [List.map_cons, List.nodup_cons] at distinct
    rcases List.mem_cons.mp h with rfl | hrest
    · rw [get?, Field.name_mk, if_pos rfl, Field.value_mk]
    · have hother : field.name ≠ name := by
        intro hname
        exact distinct.1 (List.mem_map.mpr ⟨_, hrest, hname.symm⟩)
      rw [get?, if_neg hother]
      exact ih distinct.2 hrest

namespace Occurrence

/-! ### Parents and ancestors -/

/-- The first stands directly above the second (`Occurrence.children`). -/
def IsParent (above below : Occurrence) : Prop :=
  below ∈ above.children

/-- The first stands above the second, over one step at least. -/
def IsAncestor : Occurrence → Occurrence → Prop :=
  Relation.TransGen IsParent

/-- The occurrence is an element of a sequence in a field of the parent: the sequence stands in the
node, and the path says which element it is. -/
structure IsElement (parent : Occurrence) (name : String) (siblings : List Node) (index : Nat)
    (occurrence : Occurrence) : Prop where
  field : Field.mk name (.nodes siblings) ∈ parent.node.fields
  node : siblings[index]? = some occurrence.node
  path : occurrence.path = ⟨parent.node, name, some index⟩ :: parent.path

variable {root : Node} {occurrence parent above below : Occurrence}

/-- A child fills a field alone or is an element of a sequence. -/
theorem isParent_iff :
    parent.IsParent occurrence ↔
      (∃ name, Field.mk name (.node occurrence.node) ∈ parent.node.fields ∧
        occurrence.path = ⟨parent.node, name, none⟩ :: parent.path) ∨
      ∃ name siblings index, parent.IsElement name siblings index occurrence := by
  unfold IsParent children
  rw [List.mem_flatMap]
  constructor
  · rintro ⟨⟨name, value⟩, hfield, hmem⟩
    cases value with
    | node child =>
      obtain rfl := List.mem_singleton.mp hmem
      exact Or.inl ⟨name, hfield, rfl⟩
    | nodes siblings =>
      obtain ⟨index, hindex, rfl⟩ := List.mem_mapIdx.mp hmem
      exact Or.inr ⟨name, siblings, index, hfield, List.getElem?_eq_getElem hindex, rfl⟩
    | scalar value => cases hmem
  · obtain ⟨node, path⟩ := occurrence
    rintro (⟨name, hfield, hpath⟩ | ⟨name, siblings, index, hfield, hnode, hpath⟩)
    · obtain rfl : path = _ := hpath
      exact ⟨_, hfield, List.mem_singleton_self _⟩
    · obtain rfl : path = _ := hpath
      obtain ⟨hindex, rfl⟩ := List.getElem?_eq_some_iff.mp hnode
      exact ⟨_, hfield, List.mem_mapIdx.mpr ⟨index, hindex, rfl⟩⟩

theorem IsElement.isParent {name : String} {siblings : List Node} {index : Nat}
    (h : parent.IsElement name siblings index occurrence) : parent.IsParent occurrence :=
  isParent_iff.mpr (Or.inr ⟨name, siblings, index, h⟩)

/-- The path names the parent (`Occurrence.parent?`). -/
theorem IsParent.parent?_eq (h : parent.IsParent occurrence) :
    occurrence.parent? = some parent := by
  obtain ⟨field, index, hpath⟩ := path_of_mem_children h
  rw [parent?, hpath]

/-- There is one parent, since `parent?` has one value. -/
theorem IsParent.unique (h : parent.IsParent occurrence) (habove : above.IsParent occurrence) :
    above = parent :=
  Option.some.inj (habove.parent?_eq.symm.trans h.parent?_eq)

/-- Everything from an occurrence on is reached over some steps, or none. -/
theorem mem_occurrences_iff_reflTransGen :
    below ∈ occurrence.node.occurrences occurrence.path ↔
      Relation.ReflTransGen IsParent occurrence below := by
  induction occurrence using Occurrence.childrenInduction with
  | step occurrence ih =>
    rw [occurrences_eq, descendants_eq, List.mem_cons, List.mem_flatMap,
      Relation.ReflTransGen.cases_head_iff]
    constructor
    · rintro (rfl | ⟨child, hchild, hbelow⟩)
      · exact Or.inl rfl
      · exact Or.inr ⟨child, hchild, (ih child hchild).mp hbelow⟩
    · rintro (rfl | ⟨child, hchild, hbelow⟩)
      · exact Or.inl rfl
      · exact Or.inr ⟨child, hchild, (ih child hchild).mpr hbelow⟩

/-- The proper descendants (`Occurrence.descendants`) are those it is an ancestor of. -/
theorem mem_descendants_iff : below ∈ occurrence.descendants ↔ occurrence.IsAncestor below := by
  rw [descendants_eq, List.mem_flatMap, IsAncestor, Relation.TransGen.head'_iff]
  exact exists_congr fun child => and_congr_right fun _ => mem_occurrences_iff_reflTransGen

/-! ### Occurrences in a tree -/

/-- The occurrences in a tree are those reached from its root. -/
theorem mem_tree_iff :
    occurrence ∈ root.occurrences [] ↔ Relation.ReflTransGen IsParent ⟨root, []⟩ occurrence := by
  rw [← mem_occurrences_iff_reflTransGen]

theorem mem_tree_of_isParent (h : parent ∈ root.occurrences [])
    (hparent : parent.IsParent occurrence) : occurrence ∈ root.occurrences [] :=
  mem_tree_iff.mpr ((mem_tree_iff.mp h).tail hparent)

theorem mem_tree_of_isAncestor (h : above ∈ root.occurrences [])
    (habove : above.IsAncestor occurrence) : occurrence ∈ root.occurrences [] :=
  mem_tree_iff.mpr ((mem_tree_iff.mp h).trans habove.to_reflTransGen)

/-- An occurrence in a tree is the `root` or has a parent there. -/
theorem eq_root_or_exists_parent (h : occurrence ∈ root.occurrences []) :
    occurrence = ⟨root, []⟩ ∨ ∃ parent ∈ root.occurrences [], parent.IsParent occurrence := by
  rcases Relation.ReflTransGen.cases_tail (mem_tree_iff.mp h) with heq | ⟨parent, hparent, hstep⟩
  · exact Or.inl heq
  · exact Or.inr ⟨parent, mem_tree_iff.mpr hparent, hstep⟩

/-- The parent of an occurrence in a tree is in the tree. -/
theorem parent_mem_tree (h : occurrence ∈ root.occurrences [])
    (hparent : parent.IsParent occurrence) : parent ∈ root.occurrences [] := by
  rcases eq_root_or_exists_parent h with rfl | ⟨other, hother, hstep⟩
  · cases hparent.parent?_eq
  · rw [hstep.unique hparent]
    exact hother

/-- So is every ancestor. -/
theorem ancestor_mem_tree (h : occurrence ∈ root.occurrences [])
    (habove : above.IsAncestor occurrence) : above ∈ root.occurrences [] := by
  induction habove with
  | single hparent => exact parent_mem_tree h hparent
  | tail _ hparent ih => exact ih (parent_mem_tree h hparent)

/-- **The parent is read from the path.** -/
theorem parent?_eq_some_iff (h : occurrence ∈ root.occurrences []) :
    occurrence.parent? = some parent ↔ parent.IsParent occurrence := by
  constructor
  · intro hparent
    rcases eq_root_or_exists_parent h with rfl | ⟨other, -, hstep⟩
    · cases hparent
    · obtain rfl := Option.some.inj (hstep.parent?_eq.symm.trans hparent)
      exact hstep
  · exact IsParent.parent?_eq

/-- **Ancestors are read from the path** (`Occurrence.ancestors`). -/
theorem mem_ancestors_iff (h : occurrence ∈ root.occurrences []) :
    above ∈ occurrence.ancestors ↔ above.IsAncestor occurrence := by
  -- By induction on the way from the root: its last step is the first of the path.
  have hpath := mem_tree_iff.mp h
  clear h
  induction hpath with
  | refl =>
    -- The root has no ancestors, by its path or by its parents.
    constructor
    · intro habove
      cases habove
    · intro habove
      obtain ⟨parent, -, hstep⟩ := Relation.TransGen.tail'_iff.mp habove
      cases hstep.parent?_eq
  | @tail parent occurrence _ hstep ih =>
    rw [ancestors_of_mem_children hstep, List.mem_cons]
    constructor
    · rintro (rfl | habove)
      · exact .single hstep
      · exact .tail (ih.mp habove) hstep
    · -- The last step is that of the path, since there is one parent.
      intro habove
      obtain ⟨other, hother, hlast⟩ := Relation.TransGen.tail'_iff.mp habove
      obtain rfl := hstep.unique hlast
      exact (Relation.reflTransGen_iff_eq_or_transGen.mp hother).imp Eq.symm ih.mpr

/-! ### Siblings -/

theorem IsElement.lt {name : String} {siblings : List Node} {index : Nat}
    (h : parent.IsElement name siblings index occurrence) : index < siblings.length :=
  (List.getElem?_eq_some_iff.mp h.node).1

/-- The sequence that the path of an element names is the one it is an element of. -/
theorem IsElement.get?_eq (distinct : root.FieldsDistinct) (h : parent ∈ root.occurrences [])
    {name : String} {siblings : List Node} {index : Nat}
    (helement : parent.IsElement name siblings index occurrence) :
    parent.node.get? name = some (.nodes siblings) :=
  Fields.get?_of_mem (distinct parent.node (List.mem_map_of_mem h)) helement.field

/-- The walk back along a sequence meets the elements before the bound, each with its own index. -/
theorem mem_elementsBefore_iff {step : Step} {rest : Path} {siblings : List Node} {bound : Nat} :
    occurrence ∈ elementsBefore step rest siblings bound ↔
      ∃ index < bound, siblings[index]? = some occurrence.node ∧
        occurrence.path = { step with index := some index } :: rest := by
  induction bound with
  | zero => simp [elementsBefore]
  | succ bound ih =>
    have hsplit : (∃ index < bound + 1, siblings[index]? = some occurrence.node ∧
          occurrence.path = { step with index := some index } :: rest) ↔
        (siblings[bound]? = some occurrence.node ∧
          occurrence.path = { step with index := some bound } :: rest) ∨
        ∃ index < bound, siblings[index]? = some occurrence.node ∧
          occurrence.path = { step with index := some index } :: rest := by
      simp only [Nat.lt_succ_iff_lt_or_eq, or_and_right, exists_or, exists_eq_left]
      exact or_comm
    rw [hsplit, ← ih, elementsBefore]
    obtain ⟨node, path⟩ := occurrence
    cases hsibling : siblings[bound]? with
    | none => simp
    | some sibling => simp [eq_comm]

/-- What an element reads from its path: the earlier elements of its sequence. -/
theorem IsElement.earlierSiblings_eq (distinct : root.FieldsDistinct)
    (h : parent ∈ root.occurrences []) {name : String} {siblings : List Node} {index : Nat}
    (helement : parent.IsElement name siblings index occurrence) :
    occurrence.earlierSiblings
      = elementsBefore ⟨parent.node, name, some index⟩ parent.path siblings index := by
  rw [earlierSiblings, helement.path]
  dsimp only
  rw [helement.get?_eq distinct h]

/-- A node that fills its field alone has no siblings, and the root has none. -/
theorem exists_isElement_of_mem_earlierSiblings (h : occurrence ∈ root.occurrences [])
    (habove : above ∈ occurrence.earlierSiblings) :
    ∃ parent ∈ root.occurrences [], ∃ name siblings index,
      parent.IsElement name siblings index occurrence := by
  rcases eq_root_or_exists_parent h with rfl | ⟨parent, hparent, hstep⟩
  · cases habove
  · rcases isParent_iff.mp hstep with ⟨name, -, hpath⟩ | ⟨name, siblings, index, helement⟩
    · rw [earlierSiblings, hpath] at habove
      cases habove
    · exact ⟨parent, hparent, name, siblings, index, helement⟩

/-- **Earlier siblings are read from the path** (`Occurrence.earlierSiblings`). -/
theorem mem_earlierSiblings_iff (distinct : root.FieldsDistinct)
    (h : occurrence ∈ root.occurrences []) :
    above ∈ occurrence.earlierSiblings ↔
      ∃ (parent : Occurrence) (name : String) (siblings : List Node) (index position : Nat),
        index < position ∧ parent.IsElement name siblings index above ∧
          parent.IsElement name siblings position occurrence := by
  constructor
  · intro habove
    obtain ⟨parent, hparent, name, siblings, position, helement⟩ :=
      exists_isElement_of_mem_earlierSiblings h habove
    rw [helement.earlierSiblings_eq distinct hparent, mem_elementsBefore_iff] at habove
    obtain ⟨index, hlt, hnode, hpath⟩ := habove
    exact ⟨parent, name, siblings, index, position, hlt, ⟨helement.field, hnode, hpath⟩, helement⟩
  · rintro ⟨parent, name, siblings, index, position, hlt, habove, helement⟩
    rw [helement.earlierSiblings_eq distinct (parent_mem_tree h helement.isParent),
      mem_elementsBefore_iff]
    exact ⟨index, hlt, habove.node, habove.path⟩

/-- The first of the earlier siblings is the element just before. -/
theorem mem_take_earlierSiblings_iff (distinct : root.FieldsDistinct)
    (h : occurrence ∈ root.occurrences []) :
    above ∈ occurrence.earlierSiblings.take 1 ↔
      ∃ (parent : Occurrence) (name : String) (siblings : List Node) (index : Nat),
        parent.IsElement name siblings index above ∧
          parent.IsElement name siblings (index + 1) occurrence := by
  constructor
  · intro habove
    obtain ⟨parent, hparent, name, siblings, position, helement⟩ :=
      exists_isElement_of_mem_earlierSiblings h (List.mem_of_mem_take habove)
    rw [helement.earlierSiblings_eq distinct hparent] at habove
    cases position with
    | zero => cases habove
    | succ index =>
      -- `elementsBefore` gives the element at `index` first.
      have hindex : index < siblings.length := Nat.lt_of_succ_lt helement.lt
      rw [elementsBefore, List.getElem?_eq_getElem hindex] at habove
      obtain rfl := List.mem_singleton.mp habove
      exact ⟨parent, name, siblings, index,
        ⟨helement.field, List.getElem?_eq_getElem hindex, rfl⟩, helement⟩
  · rintro ⟨parent, name, siblings, index, habove, helement⟩
    rw [helement.earlierSiblings_eq distinct (parent_mem_tree h helement.isParent),
      elementsBefore, habove.node]
    obtain ⟨node, path⟩ := above
    obtain rfl : path = _ := habove.path
    exact List.mem_singleton_self _

/-- **The position in a sequence is read from the path.** -/
theorem position?_eq_some_iff (distinct : root.FieldsDistinct)
    (h : occurrence ∈ root.occurrences []) {index length : Nat} :
    occurrence.position? = some (index, length) ↔
      ∃ (parent : Occurrence) (name : String) (siblings : List Node),
        siblings.length = length ∧ parent.IsElement name siblings index occurrence := by
  -- Names are distinct, so looking up the field of the last step gives the sequence itself.
  have helements : ∀ {parent name siblings position}, parent ∈ root.occurrences [] →
      parent.IsElement name siblings position occurrence →
      occurrence.position? = some (position, siblings.length) := by
    intro parent name siblings position hparent helement
    rw [position?, helement.path]
    simp [helement.get?_eq distinct hparent, Value.children]
  constructor
  · intro hposition
    rcases eq_root_or_exists_parent h with rfl | ⟨parent, hparent, hstep⟩
    · cases hposition
    · rcases isParent_iff.mp hstep with ⟨name, -, hpath⟩ | ⟨name, siblings, position, helement⟩
      · rw [position?, hpath] at hposition
        cases hposition
      · rw [helements hparent helement] at hposition
        obtain ⟨rfl, rfl⟩ := Prod.mk.inj (Option.some.inj hposition)
        exact ⟨parent, name, siblings, rfl, helement⟩
  · rintro ⟨parent, name, siblings, rfl, helement⟩
    exact helements (parent_mem_tree h helement.isParent) helement

end Occurrence

end SyntaxGraft
