import SyntaxGraft.Proofs.Tree.Position
/-!
# Lists of fields by name

Nodes and scalars come into a list of fields in one way: the first field of the name changes, or a
new field is opened at the end.  `Fields.alter` is that way, with what becomes of the value as a
parameter; `addNode` and `setScalar` are cases of it, and so is `addToSequence` as long as the field
holds a sequence already (`addToSequence_eq_alter`).  Names and values after a change are read off
once for all three.
-/

namespace SyntaxGraft

/-- The value with one more node; a node alone is a sequence only if it is wanted as one, and a
scalar gives way. -/
def Value.extended (sequence : Bool) (node : Node) : Option Value → Value
  | none => if sequence then .nodes [node] else .node node
  | some (.node first) => .nodes [first, node]
  | some (.nodes elements) => .nodes (elements ++ [node])
  | some (.scalar _) => .node node

/-- The nodes that a value, if there is one, holds (`Value.children`). -/
def Value.childrenOf : Option Value → List Node
  | none => []
  | some value => value.children

theorem Value.children_extended (sequence : Bool) (node : Node) (value : Option Value) :
    (extended sequence node value).children = childrenOf value ++ [node] := by
  rcases value with _ | first | nodes | scalar
  · cases sequence <;> rfl
  · rfl
  · rfl
  · rfl

/-- The nodes in the first field of a name (`Node.get?`). -/
def Node.childrenIn (node : Node) (name : String) : List Node :=
  Value.childrenOf (node.get? name)

namespace Fields

/-- The fields with the value of the first one of a name changed, or with a new one at the end. -/
def alter (name : String) (change : Option Value → Value) : List Field → List Field
  | [] => [.mk name (change none)]
  | field :: rest =>
    if field.name = name then .mk name (change (some field.value)) :: rest
    else field :: alter name change rest

variable {name other : String} {fields : List Field}

/-- A node is added as a value that is `Value.extended`, and no sequence of one is made. -/
theorem addNode_eq_alter (name : String) (node : Node) (fields : List Field) :
    addNode name node fields = alter name (Value.extended false node) fields := by
  induction fields with
  | nil => rfl
  | cons field rest ih =>
    rw [addNode, alter, ih]
    rcases field with ⟨_, first | nodes | scalar⟩ <;> rfl

theorem setScalar_eq_alter (name : String) (scalar : Scalar) (fields : List Field) :
    setScalar name scalar fields = alter name (fun _ => .scalar scalar) fields := by
  induction fields with
  | nil => rfl
  | cons field rest ih => rw [setScalar, alter, ih]

/-- Where the field holds anything but a sequence, `addToSequence` opens a second field of the name,
so this is said of sequences only. -/
theorem addToSequence_eq_alter (node : Node)
    (h : ∀ value, get? name fields = some value → ∃ nodes, value = .nodes nodes) :
    addToSequence name node fields = alter name (Value.extended true node) fields := by
  induction fields with
  | nil => rfl
  | cons field rest ih =>
    rw [addToSequence, alter]
    split
    · next hname =>
      obtain ⟨nodes, hnodes⟩ := h field.value (by rw [get?, if_pos hname])
      rw [hnodes]
      rfl
    · next hname =>
      rw [ih]
      intro value hvalue
      exact h value (by rw [get?, if_neg hname]; exact hvalue)

theorem get?_eq_none_iff : get? name fields = none ↔ name ∉ fields.map Field.name := by
  induction fields with
  | nil => simp [get?]
  | cons field rest ih =>
    rw [get?, List.map_cons, List.mem_cons, not_or]
    split
    · next hname => simp [hname]
    · next hname => rw [ih, and_iff_right (Ne.symm hname)]

/-- Names (`Field.name`) stay in the order in which they came first. -/
theorem map_name_alter (name : String) (change : Option Value → Value) (fields : List Field) :
    (alter name change fields).map Field.name
      = if name ∈ fields.map Field.name then fields.map Field.name
        else fields.map Field.name ++ [name] := by
  induction fields with
  | nil => rfl
  | cons field rest ih =>
    rw [alter]
    by_cases hname : field.name = name
    · rw [if_pos hname, if_pos (by simp [hname]), List.map_cons, List.map_cons, Field.name_mk,
        hname]
    · rw [if_neg hname, List.map_cons, ih]
      have hmem : name ∈ (field :: rest).map Field.name ↔ name ∈ rest.map Field.name := by
        rw [List.map_cons, List.mem_cons, or_iff_right (Ne.symm hname)]
      by_cases hrest : name ∈ rest.map Field.name
      · rw [if_pos hrest, if_pos (hmem.mpr hrest), List.map_cons]
      · rw [if_neg hrest, if_neg (fun h => hrest (hmem.mp h)), List.map_cons, List.cons_append]

/-- A name is new at the end only if it was not there. -/
theorem nodup_alter (change : Option Value → Value) (h : (fields.map Field.name).Nodup) :
    ((alter name change fields).map Field.name).Nodup := by
  rw [map_name_alter, ← List.concat_eq_append]
  split
  · exact h
  · next hnew => exact h.concat hnew

theorem get?_alter_self (name : String) (change : Option Value → Value) (fields : List Field) :
    get? name (alter name change fields) = some (change (get? name fields)) := by
  induction fields with
  | nil => simp [alter, get?]
  | cons field rest ih =>
    rw [alter]
    by_cases hname : field.name = name
    · rw [if_pos hname, get?, Field.name_mk, if_pos rfl, get?, if_pos hname, Field.value_mk]
    · rw [if_neg hname, get?, if_neg hname, ih, get?, if_neg hname]

/-- Other names keep their values. -/
theorem get?_alter_of_ne (h : other ≠ name) (change : Option Value → Value) :
    get? other (alter name change fields) = get? other fields := by
  induction fields with
  | nil => simp [alter, get?, h.symm]
  | cons field rest ih =>
    rw [alter]
    by_cases hname : field.name = name
    · rw [if_pos hname, get?, Field.name_mk, if_neg h.symm, get?, hname, if_neg h.symm]
    · rw [if_neg hname, get?, ih, get?]

/-- A scalar under a name that holds no nodes takes none away. -/
theorem children_setScalar_of_childrenOf (scalar : Scalar)
    (h : Value.childrenOf (get? name fields) = []) :
    children (setScalar name scalar fields) = children fields := by
  induction fields with
  | nil => rfl
  | cons field rest ih =>
    rw [setScalar]
    rw [get?] at h
    by_cases hname : field.name = name
    · rw [if_pos hname] at h ⊢
      have hnone : field.value.children = [] := h
      rw [children_cons, children_cons, hnone]
      rfl
    · rw [if_neg hname] at h ⊢
      rw [children_cons, children_cons, ih h]

end Fields

end SyntaxGraft
