import SyntaxGraft.Proofs.Parse.Faithful
/-!
# Field order and source order

Pre-order goes through the fields of a node in the order in which they first occurred.  Fields begin
one after the other in the source (`Parse.pairwise_heads_nodeOf`), which the conversion keeps as an
invariant, `Parse.Staged`.  That is the order of all children when those of each field stand
together: then a field that was opened earlier ends before the next one begins
(`Parse.pairwise_children_nodeOf`).  Where this holds of every node, identities increase along the
whole tree (`Parse.pairwise_ids_nodeOf`), and where ranges nest as well, so do the places in the
text (`ParseTree.Nested.pairwise_start`).
-/

namespace SyntaxGraft

/-! ### Where fields begin -/

namespace Fields

/-- The second list of fields is the first with a node put in under a name: behind the nodes of a
field of that name, or in a new field. -/
inductive Joins (name : String) (node : Node) : List Field → List Field → Prop
  | behind (before after : List Field) {value value' : Value}
      (h : value'.children = value.children ++ [node]) :
      Joins name node (before ++ .mk name value :: after) (before ++ .mk name value' :: after)
  | new (fields : List Field) {value : Value} (h : value.children = [node]) :
      Joins name node fields (fields ++ [.mk name value])

theorem Joins.cons {name : String} {node : Node} {fields fields' : List Field}
    (h : Joins name node fields fields') (field : Field) :
    Joins name node (field :: fields) (field :: fields') := by
  cases h with
  | behind before after h => exact .behind (field :: before) after h
  | new _ h => exact .new (field :: fields) h

theorem joins_addNode (name : String) (node : Node) (fields : List Field) :
    Joins name node fields (addNode name node fields) := by
  induction fields with
  | nil => exact .new [] rfl
  | cons field rest ih =>
    obtain ⟨other, value⟩ := field
    rw [addNode]
    by_cases hname : other = name
    · subst hname
      rw [Field.name_mk, if_pos rfl]
      cases value <;> exact .behind [] rest rfl
    · rw [Field.name_mk, if_neg hname]
      exact ih.cons _

theorem joins_addToSequence (name : String) (node : Node) (fields : List Field) :
    Joins name node fields (addToSequence name node fields) := by
  induction fields with
  | nil => exact .new [] rfl
  | cons field rest ih =>
    obtain ⟨other, value⟩ := field
    rw [addToSequence]
    by_cases hname : other = name
    · subst hname
      rw [Field.name_mk, if_pos rfl]
      cases value with
      | nodes elements => exact .behind [] rest rfl
      | node first => exact .new (_ :: rest) rfl
      | scalar value => exact .new (_ :: rest) rfl
    · rw [Field.name_mk, if_neg hname]
      exact ih.cons _

/-- The identities of the first nodes of the fields that hold nodes. -/
def heads (fields : List Field) : List Nat :=
  fields.filterMap fun field => field.value.children.head?.map Node.id

theorem heads_setScalar (name : String) (scalar : Scalar) (fields : List Field) :
    (heads (setScalar name scalar fields)).Sublist (heads fields) := by
  induction fields with
  | nil => exact List.Sublist.refl _
  | cons field rest ih =>
    have hcons : ∀ fields, heads (field :: fields) = heads [field] ++ heads fields := fun fields =>
      List.filterMap_append (l := [field])
    rw [setScalar, hcons rest]
    split
    · exact List.sublist_append_right _ _
    · rw [hcons]
      exact ih.append_left _

variable {name : String} {node : Node} {fields fields' : List Field}

/-- A node joins a field that holds nodes behind its first, or is the first of a new field.  So it
changes `heads` at the end only; a field of its name that holds a scalar is excluded. -/
theorem Joins.heads (h : Joins name node fields fields')
    (hholds : ∀ field ∈ fields, field.name = name → field.value.children ≠ []) :
    heads fields' = heads fields ∨ heads fields' = heads fields ++ [node.id] := by
  cases h with
  | @behind before after value value' hvalue =>
    -- The field holds a node already, which stays the first.
    left
    have hne : value.children ≠ [] := hholds (.mk name value) (by simp) rfl
    have hhead : value'.children.head? = value.children.head? := by
      rw [hvalue, List.head?_append_of_ne_nil _ hne]
    simp only [Fields.heads, List.filterMap_append, List.filterMap_cons, Field.value_mk, hhead]
  | new _ hvalue =>
    right
    simp [Fields.heads, hvalue]

theorem Joins.eq_or_mem (h : Joins name node fields fields') {field : Field}
    (hfield : field ∈ fields') : field ∈ fields ∨ field.value.children ≠ [] := by
  cases h with
  | behind before after hvalue =>
    rcases List.mem_append.mp hfield with hbefore | hrest
    · exact Or.inl (List.mem_append_left _ hbefore)
    · rcases List.mem_cons.mp hrest with rfl | hafter
      · exact Or.inr (by simp [hvalue])
      · exact Or.inl (by simp [hafter])
  | new _ hvalue =>
    rcases List.mem_append.mp hfield with hold | hlast
    · exact Or.inl hold
    · rw [List.mem_singleton.mp hlast]
      exact Or.inr (by simp [hvalue])

theorem mem_setScalar {scalar : Scalar} {field : Field}
    (h : field ∈ setScalar name scalar fields) : field ∈ fields ∨ field.name = name := by
  induction fields with
  | nil => exact Or.inr (by rw [List.mem_singleton.mp h, Field.name_mk])
  | cons first rest ih =>
    rw [setScalar] at h
    split at h
    · rcases List.mem_cons.mp h with rfl | hrest
      · exact Or.inr rfl
      · exact Or.inl (List.mem_cons_of_mem _ hrest)
    · rcases List.mem_cons.mp h with rfl | hrest
      · exact Or.inl List.mem_cons_self
      · exact (ih hrest).imp_left (List.mem_cons_of_mem _)

end Fields

namespace ParseTree

/-- No field has both tokens (`tokenFields`) and nodes. -/
def TokensApart (tree : ParseTree) : Prop :=
  ∀ name ∈ tree.tokenFields, ∀ child ∈ tree.children, Parse.isNamed child = true →
    Parse.childField tree.kind child.row ≠ name

instance (tree : ParseTree) : Decidable tree.TokensApart :=
  inferInstanceAs (Decidable (∀ name ∈ tree.tokenFields, ∀ child ∈ tree.children,
    Parse.isNamed child = true → Parse.childField tree.kind child.row ≠ name))

theorem count_pos (tree : ParseTree) : 0 < tree.count := by
  obtain ⟨row, children⟩ := tree
  rw [count_mk]
  omega

end ParseTree

namespace Parse

variable {text : Text} {tree : ParseTree}

theorem joins_addChild (kind : String) (row : Row) (child : Node) (fields : List Field) :
    Fields.Joins (childField kind row) child fields (addChild kind row child fields) := by
  rw [addChild_eq]
  split
  · exact Fields.joins_addToSequence _ _ _
  · exact Fields.joins_addNode _ _ _

/-- Fields opened so far, when the next number is `next`: they begin one after the other, and those
without nodes are those of tokens. -/
structure Staged (tree : ParseTree) (fields : List Field) (next : Nat) : Prop where
  heads : (Fields.heads fields).Pairwise (· < ·)
  below : ∀ head ∈ Fields.heads fields, head < next
  tokens : ∀ field ∈ fields, field.value.children = [] → field.name ∈ tree.tokenFields

namespace Staged

variable {fields : List Field} {next : Nat}

/-- A child keeps `Staged`: if it opens a field, its number is above those of all heads so far. -/
theorem addChild (h : Staged tree fields next) (apart : tree.TokensApart) {new : ParseTree}
    (hnew : new ∈ tree.children) (hnamed : isNamed new = true) {child : Node} {after : Nat}
    (hid : child.id = next) (hafter : next < after) :
    Staged tree (Parse.addChild tree.kind new.row child fields) after := by
  have hjoins := joins_addChild tree.kind new.row child fields
  have hheads := hjoins.heads fun field hfield hname hempty =>
    apart _ (h.tokens field hfield hempty) new hnew hnamed hname.symm
  have hbelow : ∀ head ∈ Fields.heads fields, head < after := fun head hhead =>
    Nat.lt_trans (h.below head hhead) hafter
  have htokens : ∀ field ∈ Parse.addChild tree.kind new.row child fields,
      field.value.children = [] → field.name ∈ tree.tokenFields := by
    intro field hfield hempty
    rcases hjoins.eq_or_mem hfield with hold | hholds
    · exact h.tokens field hold hempty
    · exact absurd hempty hholds
  rcases hheads with hheads | hheads
  · rw [← hheads] at hbelow
    exact ⟨hheads ▸ h.heads, hbelow, htokens⟩
  · refine ⟨?_, ?_, htokens⟩
    · rw [hheads, hid, List.pairwise_append]
      refine ⟨h.heads, List.pairwise_singleton _ _, ?_⟩
      intro head hhead last hlast
      rw [List.mem_singleton.mp hlast]
      exact h.below head hhead
    · intro head hhead
      rw [hheads, List.mem_append, List.mem_singleton, hid] at hhead
      rcases hhead with hhead | rfl
      · exact hbelow head hhead
      · exact hafter

/-- A token keeps `Staged`, even if it pushes nodes out: heads only get fewer. -/
theorem setScalar (h : Staged tree fields next) {name : String} (hname : name ∈ tree.tokenFields)
    (scalar : Scalar) : Staged tree (Fields.setScalar name scalar fields) next where
  heads := h.heads.sublist (Fields.heads_setScalar name scalar fields)
  below head hhead := h.below head ((Fields.heads_setScalar name scalar fields).subset hhead)
  tokens field hfield hempty := by
    rcases Fields.mem_setScalar hfield with hold | rfl
    · exact h.tokens field hold hempty
    · exact hname

end Staged

theorem staged_convertChildren (text : Text) (apart : tree.TokensApart) {trees : List ParseTree}
    (hsub : ∀ child ∈ trees, child ∈ tree.children) {fields : List Field} {next : Nat}
    (h : Staged tree fields next) :
    Staged tree (convertChildren text tree.kind trees fields next).1
      (convertChildren text tree.kind trees fields next).2 := by
  induction trees generalizing fields next with
  | nil => exact h
  | cons new rest ih =>
    obtain ⟨hnew, hrest⟩ := List.forall_mem_cons.mp hsub
    rw [convertChildren]
    by_cases hnamed : isNamed new = true
    · rw [if_pos hnamed]
      exact ih hrest (h.addChild apart hnew hnamed (id_nodeOf text (new, next))
        (ids_convert text new next).1)
    · rw [if_neg hnamed, addToken]
      apply ih hrest
      cases hfield : new.row.field with
      | none => exact h
      | some name =>
        exact h.setScalar
          (ParseTree.mem_tokenFields hnew (Bool.eq_false_iff.mpr hnamed) hfield) _

/-- The fields of a node begin one after the other: their `heads` increase. -/
theorem pairwise_heads_nodeOf (text : Text) (apart : tree.TokensApart) (next : Nat) :
    (Fields.heads (nodeOf text (tree, next)).fields).Pairwise (· < ·) := by
  obtain ⟨row, children⟩ := tree
  have hempty : Staged (.mk row children) [] (next + 1) :=
    ⟨List.Pairwise.nil, by simp [Fields.heads], by simp⟩
  have hstaged := staged_convertChildren text apart (fun child hchild => hchild) hempty
  obtain ⟨scalars, -, hfields⟩ := exists_attachScalars_eq row text (!children.any isNamed)
    (convertChildren text (Kind.ofProduction row.production) children [] (next + 1)).1
  -- The scalars of the node's own text open no field with nodes.
  have hsublist : ∀ (scalars : List (String × Scalar)) (fields : List Field),
      (Fields.heads (scalars.foldl (fun fields scalar =>
        Fields.setScalar scalar.1 scalar.2 fields) fields)).Sublist (Fields.heads fields) := by
    intro scalars
    induction scalars with
    | nil => intro fields; exact List.Sublist.refl _
    | cons scalar rest ih => intro fields; exact (ih _).trans (Fields.heads_setScalar _ _ _)
  show (Fields.heads (attachScalars row text (!children.any isNamed)
    (convertChildren text (Kind.ofProduction row.production) children [] (next + 1)).1)).Pairwise _
  rw [hfields]
  exact hstaged.heads.sublist (hsublist _ _)

/-! ### Children in order -/

theorem pairwise_snd_numbered (trees : List ParseTree) (next : Nat) :
    ((numbered trees next).map Prod.snd).Pairwise (· < ·) := by
  refine List.pairwise_map.mpr ((numbered_blocks trees next).2.imp ?_)
  intro child other hle
  have hpos := child.1.count_pos
  omega

/-- What is behind the first number of a run, and not in it, is behind the whole run. -/
theorem lt_of_infix {numbers run : List Nat} (hsorted : numbers.Pairwise (· < ·))
    (hrun : run <:+: numbers) {first other : Nat} (hfirst : run.head? = some first)
    (hother : other ∈ numbers) (hlt : first < other) (hnot : other ∉ run) :
    ∀ number ∈ run, number < other := by
  obtain ⟨before, after, rfl⟩ := hrun
  intro number hnumber
  rcases List.mem_append.mp hother with hfront | hafter
  · rcases List.mem_append.mp hfront with hbefore | hin
    · -- What is before the run is before its first number.
      have hle := (List.pairwise_append.mp (List.pairwise_append.mp hsorted).1).2.2 other hbefore
        first (List.mem_of_head? hfirst)
      omega
    · exact absurd hin hnot
  · exact (List.pairwise_append.mp hsorted).2.2 number (List.mem_append_right _ hnumber) other
      hafter

/-- Under the node of a tree (`nodeOf`), the children of each field follow one another among the
named children of the tree. -/
def Together (tree : ParseTree) (number : Nat) (node : Node) : Prop :=
  ∀ field ∈ node.fields, field.value.children.map Node.id
    <:+: (numbered tree.children (number + 1)).map Prod.snd

instance (tree : ParseTree) (number : Nat) (node : Node) : Decidable (Together tree number node) :=
  inferInstanceAs (Decidable (∀ field ∈ node.fields, field.value.children.map Node.id
    <:+: (numbered tree.children (number + 1)).map Prod.snd))

theorem nodup_children_nodeOf (text : Text) (tree : ParseTree) (number : Nat) :
    ((nodeOf text (tree, number)).children.map Node.id).Nodup := by
  obtain ⟨row, children⟩ := tree
  obtain ⟨chosen, hperm, hsub⟩ := children_nodeOf_subperm text row children number
  have hnodup : (((numbered children (number + 1)).map (nodeOf text)).map Node.id).Nodup := by
    rw [map_id_nodeOf]
    exact (pairwise_snd_numbered children (number + 1)).imp Nat.ne_of_lt
  exact (hperm.map Node.id).nodup_iff.mp (hnodup.sublist (hsub.map Node.id))

/-- **Children in the order of the source.**  A field that begins before another and has no gap ends
before the other begins. -/
theorem pairwise_children_nodeOf (text : Text) (apart : tree.TokensApart) {number : Nat}
    (together : Together tree number (nodeOf text (tree, number))) :
    ((nodeOf text (tree, number)).children.map Node.id).Pairwise (· < ·) := by
  have hsorted := pairwise_snd_numbered tree.children (number + 1)
  have hheads := List.pairwise_filterMap.mp (pairwise_heads_nodeOf text apart number)
  have hnodup := nodup_children_nodeOf text tree number
  rw [Node.children, Fields.children, List.map_flatMap] at hnodup ⊢
  have hdisjoint := (List.nodup_flatMap.mp hnodup).2
  -- In a field the children are a run of the numbered ones; between two, the heads decide.
  rw [List.pairwise_flatMap]
  refine ⟨fun field hfield => hsorted.sublist (together field hfield).sublist, ?_⟩
  refine (hheads.and hdisjoint).imp_of_mem ?_
  rintro field other hfield hother ⟨hlt, hapart⟩ id hid later hlater
  -- Both fields hold nodes, the first of them in order.
  obtain ⟨first, hfirst⟩ : ∃ first, (field.value.children.map Node.id).head? = some first :=
    Option.isSome_iff_exists.mp (List.isSome_head?.mpr (List.ne_nil_of_mem hid))
  obtain ⟨next, hnext⟩ : ∃ next, (other.value.children.map Node.id).head? = some next :=
    Option.isSome_iff_exists.mp (List.isSome_head?.mpr (List.ne_nil_of_mem hlater))
  have hbegin : first < next := by
    rw [List.head?_map] at hfirst hnext
    exact hlt first hfirst next hnext
  have hle : next ≤ later := by
    have hrun := hsorted.sublist (together other hother).sublist
    cases hids : other.value.children.map Node.id with
    | nil => rw [hids] at hlater; cases hlater
    | cons head rest =>
      rw [hids] at hrun hlater hnext
      obtain rfl := Option.some.inj hnext
      rcases List.mem_cons.mp hlater with rfl | hrest
      · exact Nat.le_refl _
      · exact Nat.le_of_lt ((List.pairwise_cons.mp hrun).1 later hrest)
  exact lt_of_infix hsorted (together field hfield) hfirst
    ((together other hother).subset hlater) (Nat.lt_of_lt_of_le hbegin hle)
    (fun hin => hapart hin hlater) id hid

/-! ### Whole trees in order -/

theorem bounds_of_mem_ids {numbered : ParseTree × Nat} {id : Nat}
    (h : id ∈ (nodeOf text numbered).ids) :
    numbered.2 ≤ id ∧ id < numbered.2 + numbered.1.count := by
  have hmem := (ids_convert text numbered.1 numbered.2).2.subset h
  rw [convert_snd] at hmem
  exact List.Ico.mem.mp hmem

/-- **Identities increase along the tree**, where no field has both tokens and nodes and the
children of each field stand together. -/
theorem pairwise_ids_nodeOf (text : Text) {next : Nat}
    (apart : ∀ found ∈ tree.namedTrees, found.TokensApart)
    (together : ∀ found ∈ tree.namedTrees.zipIdx next,
      nodeOf text found ∈ (nodeOf text (tree, next)).nodes →
      Together found.1 found.2 (nodeOf text found)) :
    (nodeOf text (tree, next)).ids.Pairwise (· < ·) := by
  induction tree using ParseTree.childrenInduction generalizing next with
  | step row children ih =>
    have hchildren := pairwise_children_nodeOf text (apart _ (ParseTree.self_mem_namedTrees _))
      (together _ (self_mem_zipIdx _ next) (Node.self_mem_nodes _))
    -- A child is the node of a numbered child of the tree.
    have hsource : ∀ child ∈ (nodeOf text (.mk row children, next)).children,
        ∃ source ∈ numbered children (next + 1), nodeOf text source = child := fun child hchild =>
      List.mem_map.mp ((children_nodeOf_subperm text row children next).subset hchild)
    have hblocks := numbered_blocks children (next + 1)
    rw [Node.ids_eq, id_nodeOf, List.pairwise_cons, List.pairwise_flatMap]
    refine ⟨?_, ?_, ?_⟩
    · -- the node before all below it
      intro id hid
      obtain ⟨child, hchild, hid⟩ := List.mem_flatMap.mp hid
      obtain ⟨source, hmem, rfl⟩ := hsource child hchild
      have hlow := hblocks.1 source hmem
      have hbounds := bounds_of_mem_ids hid
      show next < id
      omega
    · -- within one child, by induction
      intro child hchild
      obtain ⟨source, hmem, rfl⟩ := hsource child hchild
      obtain ⟨hsourceMem, hnamed⟩ := mem_of_mem_numbered hmem
      apply ih source.1 hsourceMem
      · intro found hfound
        exact apart found (ParseTree.mem_namedTrees_of_child hsourceMem hnamed hfound)
      · intro found hfound hnode
        apply together found
        · exact mem_zipIdx_trans (mem_zipIdx_of_mem_numbered (.mk row children) hmem) hfound
        · exact Node.mem_nodes_iff.mpr (Or.inr ⟨_, hchild, hnode⟩)
    · -- between two children, whose blocks of numbers lie apart
      refine (List.pairwise_map.mp hchildren).imp_of_mem ?_
      intro child other hchild hother hlt id hid later hlater
      obtain ⟨source, hmem, rfl⟩ := hsource child hchild
      obtain ⟨target, htarget, rfl⟩ := hsource other hother
      rw [id_nodeOf, id_nodeOf] at hlt
      have hblock := block_le_of_lt hmem htarget hlt
      have hbounds := bounds_of_mem_ids hid
      have hboundsLater := bounds_of_mem_ids hlater
      omega

end Parse

/-! ### Places in the text -/

/-- Children lie inside their parent, one after the other. -/
inductive ParseTree.Nested : ParseTree → Prop
  | mk {row : Row} {children : List ParseTree} (ordered : row.start ≤ row.stop)
      (within : ∀ child ∈ children, row.start ≤ child.row.start ∧ child.row.stop ≤ row.stop)
      (inOrder : children.Pairwise fun child other => child.row.stop ≤ other.row.start)
      (below : ∀ child ∈ children, child.Nested) : Nested (.mk row children)

namespace ParseTree

theorem WellFormed.nested {text : Text} {tree : ParseTree} (h : tree.WellFormed text) :
    tree.Nested := by
  induction tree using ParseTree.childrenInduction with
  | step row children ih =>
    obtain ⟨fits, within, inOrder, -, below⟩ := h
    exact .mk fits.ordered within inOrder fun child hchild => ih child hchild (below child hchild)

namespace Nested

variable {tree found : ParseTree}

theorem ordered (h : tree.Nested) : tree.row.start ≤ tree.row.stop := by
  cases h with
  | mk ordered => exact ordered

/-- What is below a `Nested` tree begins inside of it. -/
theorem bounds (h : tree.Nested) (hfound : found ∈ tree.namedTrees) :
    tree.row.start ≤ found.row.start ∧ found.row.start ≤ tree.row.stop := by
  induction tree using ParseTree.childrenInduction with
  | step row children ih =>
    have hself := h.ordered
    cases h with
    | mk _ within _ below =>
      rcases mem_namedTrees_iff.mp hfound with rfl | ⟨child, hchild, -, hfound⟩
      · exact ⟨Nat.le_refl _, hself⟩
      · have hchildBounds := ih child hchild (below child hchild) hfound
        have hinside := within child hchild
        exact ⟨Nat.le_trans hinside.1 hchildBounds.1, Nat.le_trans hchildBounds.2 hinside.2⟩

/-- **In pre-order, the starts do not decrease.** -/
theorem pairwise_start (h : tree.Nested) :
    tree.namedTrees.Pairwise fun found other => found.row.start ≤ other.row.start := by
  induction tree using ParseTree.childrenInduction with
  | step row children ih =>
    rw [namedTrees, List.pairwise_cons]
    refine ⟨?_, ?_⟩
    · intro found hfound
      exact (h.bounds (by rw [namedTrees]; exact List.mem_cons_of_mem _ hfound)).1
    · cases h with
      | mk _ _ inOrder below =>
        rw [namedTreesOfList_eq, List.pairwise_flatMap]
        refine ⟨?_, ?_⟩
        · intro child hchild
          have hmem := List.mem_of_mem_filter hchild
          exact ih child hmem (below child hmem)
        · refine (inOrder.sublist List.filter_sublist).imp_of_mem ?_
          intro child other hchild hother hle found hfound later hlater
          have hfoundBounds := (below child (List.mem_of_mem_filter hchild)).bounds hfound
          have hlaterBounds := (below other (List.mem_of_mem_filter hother)).bounds hlater
          omega

end Nested

end ParseTree

end SyntaxGraft
