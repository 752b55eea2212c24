import SyntaxGraft.Proofs.Parse.Conversion
/-!
# The numbers of a conversion

A conversion numbers the named nodes of a parse tree in pre-order.  Here the numbers are read off
the parse tree alone: `ParseTree.namedTrees` lists the named trees in pre-order, so that the number
of one is its place in the list, and `Parse.numbered` gives the named children of a node with their
numbers.  A node of the converted tree is what the conversion makes of the tree at its number
(`Parse.exists_tree_of_mem_nodes`).
-/

namespace SyntaxGraft

namespace ParseTree

mutual

/-- The tree and the named trees below it, in pre-order.  A token has nothing below it. -/
def namedTrees : ParseTree → List ParseTree
  | .mk row children => .mk row children :: namedTreesOfList children

/-- The named trees among some trees and below them. -/
def namedTreesOfList : List ParseTree → List ParseTree
  | [] => []
  | tree :: rest => (if Parse.isNamed tree then tree.namedTrees else []) ++ namedTreesOfList rest

end

/-- How many nodes the tree becomes, if none is lost: the length of `namedTrees`. -/
def count (tree : ParseTree) : Nat :=
  tree.namedTrees.length

theorem count_mk (row : Row) (children : List ParseTree) :
    (ParseTree.mk row children).count = 1 + (namedTreesOfList children).length := by
  rw [count, namedTrees, List.length_cons, Nat.add_comm]

theorem namedTreesOfList_eq (trees : List ParseTree) :
    namedTreesOfList trees = (trees.filter Parse.isNamed).flatMap namedTrees := by
  induction trees with
  | nil => rfl
  | cons tree rest ih =>
    rw [namedTreesOfList, ih]
    by_cases hnamed : Parse.isNamed tree = true
    · rw [if_pos hnamed, List.filter_cons_of_pos hnamed, List.flatMap_cons]
    · rw [if_neg hnamed, List.filter_cons_of_neg hnamed, List.nil_append]

theorem mem_namedTrees_iff {row : Row} {children : List ParseTree} {tree : ParseTree} :
    tree ∈ (ParseTree.mk row children).namedTrees ↔
      tree = .mk row children ∨
        ∃ child ∈ children, Parse.isNamed child = true ∧ tree ∈ child.namedTrees := by
  rw [namedTrees, List.mem_cons, namedTreesOfList_eq, List.mem_flatMap]
  simp only [List.mem_filter, and_assoc]

theorem self_mem_namedTrees (tree : ParseTree) : tree ∈ tree.namedTrees := by
  obtain ⟨row, children⟩ := tree
  exact List.mem_cons_self

theorem mem_namedTrees_of_child {row : Row} {children : List ParseTree} {child tree : ParseTree}
    (hchild : child ∈ children) (hnamed : Parse.isNamed child = true)
    (h : tree ∈ child.namedTrees) : tree ∈ (ParseTree.mk row children).namedTrees :=
  mem_namedTrees_iff.mpr (Or.inr ⟨child, hchild, hnamed, h⟩)

theorem mem_namedTrees_trans {tree found other : ParseTree} (h : found ∈ tree.namedTrees)
    (hother : other ∈ found.namedTrees) : other ∈ tree.namedTrees := by
  induction tree using ParseTree.childrenInduction with
  | step row children ih =>
    rcases mem_namedTrees_iff.mp h with rfl | ⟨child, hchild, hnamed, hfound⟩
    · exact hother
    · exact mem_namedTrees_of_child hchild hnamed (ih child hchild hfound)

mutual

/-- A token, any tree whose status is not `named`, is a leaf. -/
def tokensAreLeaves : ParseTree → Bool
  | .mk row children => (row.status = .named || children.isEmpty) && tokensAreLeavesOfList children

def tokensAreLeavesOfList : List ParseTree → Bool
  | [] => true
  | tree :: rest => tree.tokensAreLeaves && tokensAreLeavesOfList rest

end

mutual

/-- Where `tokensAreLeaves`, the named trees are those of the named rows.  Below a token
`namedTrees` does not look, and `rows` does. -/
theorem map_row_namedTrees : ∀ {tree : ParseTree}, tree.tokensAreLeaves = true →
    (if Parse.isNamed tree then tree.namedTrees else []).map row
      = tree.rows.filter fun row => row.status = .named
  | .mk row children => by
    intro h
    rw [tokensAreLeaves, Bool.and_eq_true, Bool.or_eq_true, decide_eq_true_eq] at h
    obtain ⟨hself, hbelow⟩ := h
    by_cases hnamed : Parse.isNamed (.mk row children) = true
    · have hstatus : row.status = .named := of_decide_eq_true hnamed
      rw [if_pos hnamed, namedTrees, rows, List.map_cons,
        List.filter_cons_of_pos (by simpa using hstatus), map_row_namedTreesOfList hbelow]
      rfl
    · have hstatus : ¬ row.status = .named := fun h => hnamed (decide_eq_true h)
      have hnil : children = [] := List.isEmpty_iff.mp (hself.resolve_left hstatus)
      rw [if_neg hnamed, hnil, rows, List.filter_cons_of_neg (by simpa using hstatus)]
      rfl

theorem map_row_namedTreesOfList : ∀ {trees : List ParseTree},
    tokensAreLeavesOfList trees = true →
    (namedTreesOfList trees).map row
      = (rowsOfList trees).filter fun row => row.status = .named
  | [] => fun _ => rfl
  | tree :: rest => by
    intro h
    rw [tokensAreLeavesOfList, Bool.and_eq_true] at h
    rw [namedTreesOfList, rowsOfList, List.map_append, List.filter_append,
      map_row_namedTrees h.1, map_row_namedTreesOfList h.2]

end

end ParseTree

namespace Parse

open ParseTree (namedTreesOfList)

/-- The named ones among some trees, each with its number when they are numbered in pre-order, one
after the other, from `next` on. -/
def numbered : List ParseTree → Nat → List (ParseTree × Nat)
  | [], _ => []
  | tree :: rest, next =>
    if isNamed tree then (tree, next) :: numbered rest (next + tree.count) else numbered rest next

variable {text : Text} {trees : List ParseTree} {next : Nat}

/-- The trees that `numbered` lists are the named ones, in order. -/
theorem map_fst_numbered (trees : List ParseTree) (next : Nat) :
    (numbered trees next).map Prod.fst = trees.filter isNamed := by
  induction trees generalizing next with
  | nil => rfl
  | cons tree rest ih =>
    rw [numbered]
    split
    · next hnamed => rw [List.map_cons, ih, List.filter_cons_of_pos hnamed]
    · next htoken => rw [ih, List.filter_cons_of_neg htoken]

theorem mem_of_mem_numbered {child : ParseTree × Nat} (h : child ∈ numbered trees next) :
    child.1 ∈ trees ∧ isNamed child.1 = true := by
  rw [← List.mem_filter, ← map_fst_numbered trees next]
  exact List.mem_map_of_mem h

theorem numbered_append (trees others : List ParseTree) (next : Nat) :
    numbered (trees ++ others) next
      = numbered trees next ++ numbered others (next + (namedTreesOfList trees).length) := by
  induction trees generalizing next with
  | nil => rfl
  | cons tree rest ih =>
    rw [List.cons_append, numbered, numbered, namedTreesOfList]
    split
    · rw [ih, List.cons_append, List.length_append, ← Nat.add_assoc]
      rfl
    · rw [ih, List.nil_append]

theorem namedTreesOfList_append (trees others : List ParseTree) :
    namedTreesOfList (trees ++ others) = namedTreesOfList trees ++ namedTreesOfList others := by
  simp only [ParseTree.namedTreesOfList_eq, List.filter_append, List.flatMap_append]

theorem exists_mem_numbered {tree : ParseTree} (h : tree ∈ trees) (hnamed : isNamed tree = true)
    (next : Nat) : ∃ number, (tree, number) ∈ numbered trees next := by
  have hmem : tree ∈ (numbered trees next).map Prod.fst := by
    rw [map_fst_numbered]
    exact List.mem_filter.mpr ⟨h, hnamed⟩
  obtain ⟨⟨_, number⟩, hnumber, rfl⟩ := List.mem_map.mp hmem
  exact ⟨number, hnumber⟩

/-- Numbering `namedTreesOfList` from `next` on is numbering the trees below each named one from the
number that `numbered` has for it: pre-order, block after block. -/
theorem zipIdx_namedTreesOfList (trees : List ParseTree) (next : Nat) :
    (namedTreesOfList trees).zipIdx next
      = (numbered trees next).flatMap fun child => child.1.namedTrees.zipIdx child.2 := by
  induction trees generalizing next with
  | nil => rfl
  | cons tree rest ih =>
    rw [namedTreesOfList, numbered]
    split
    · rw [List.zipIdx_append, ih, List.flatMap_cons]
      rfl
    · rw [List.nil_append, ih]

theorem zipIdx_namedTrees (row : Row) (children : List ParseTree) (next : Nat) :
    (ParseTree.mk row children).namedTrees.zipIdx next
      = (.mk row children, next) :: (numbered children (next + 1)).flatMap fun child =>
          child.1.namedTrees.zipIdx child.2 := by
  rw [ParseTree.namedTrees, List.zipIdx_cons, zipIdx_namedTreesOfList]

/-- The first number of a tree is its own. -/
theorem self_mem_zipIdx (tree : ParseTree) (next : Nat) :
    (tree, next) ∈ tree.namedTrees.zipIdx next := by
  obtain ⟨row, children⟩ := tree
  rw [zipIdx_namedTrees]
  exact List.mem_cons_self

/-- What has a number below a tree has it below every tree above: the numbers do not depend on where
the counting began. -/
theorem mem_zipIdx_trans {tree : ParseTree} {found other : ParseTree × Nat}
    (h : found ∈ tree.namedTrees.zipIdx next)
    (hother : other ∈ found.1.namedTrees.zipIdx found.2) :
    other ∈ tree.namedTrees.zipIdx next := by
  induction tree using ParseTree.childrenInduction generalizing next with
  | step row children ih =>
    rw [zipIdx_namedTrees] at h
    rcases List.mem_cons.mp h with rfl | hbelow
    · exact hother
    · obtain ⟨child, hchild, hfound⟩ := List.mem_flatMap.mp hbelow
      rw [zipIdx_namedTrees]
      refine List.mem_cons_of_mem _ (List.mem_flatMap.mpr ⟨child, hchild, ?_⟩)
      exact ih child.1 (mem_of_mem_numbered hchild).1 hfound

/-- A numbered child (`numbered`) has its number below its parent. -/
theorem mem_zipIdx_of_mem_numbered (tree : ParseTree) {child : ParseTree × Nat}
    (h : child ∈ numbered tree.children (next + 1)) : child ∈ tree.namedTrees.zipIdx next := by
  obtain ⟨row, children⟩ := tree
  rw [zipIdx_namedTrees]
  exact List.mem_cons_of_mem _
    (List.mem_flatMap.mpr ⟨child, h, self_mem_zipIdx child.1 child.2⟩)

/-- The blocks of numbers follow one another, from `next` on. -/
theorem numbered_blocks (trees : List ParseTree) (next : Nat) :
    (∀ child ∈ numbered trees next, next ≤ child.2) ∧
      (numbered trees next).Pairwise fun child other => child.2 + child.1.count ≤ other.2 := by
  induction trees generalizing next with
  | nil => simp [numbered]
  | cons tree rest ih =>
    rw [numbered]
    split
    · -- All later numbers are beyond the block of this tree.
      obtain ⟨hlow, hblocks⟩ := ih (next + tree.count)
      refine ⟨List.forall_mem_cons.mpr ⟨Nat.le_refl _, ?_⟩, List.pairwise_cons.mpr ⟨hlow, hblocks⟩⟩
      intro child hchild
      have hle := hlow child hchild
      omega
    · exact ih next

theorem block_le_of_lt {child other : ParseTree × Nat} (hchild : child ∈ numbered trees next)
    (hother : other ∈ numbered trees next) (hlt : child.2 < other.2) :
    child.2 + child.1.count ≤ other.2 := by
  -- By the places in the list: the numbers increase, so the smaller one stands first.
  obtain ⟨place, hplace, rfl⟩ := List.getElem_of_mem hchild
  obtain ⟨later, hlater, rfl⟩ := List.getElem_of_mem hother
  have hblocks := List.pairwise_iff_getElem.mp (numbered_blocks trees next).2
  rcases Nat.lt_trichotomy place later with hbefore | rfl | hafter
  · exact hblocks place later hplace hlater hbefore
  · exact absurd hlt (Nat.lt_irrefl _)
  · have hle := hblocks later place hlater hplace hafter
    omega

/-! ### The numbers that a conversion gives -/

/-- The first number that `convert` does not use: nothing is left out for a child that gets lost. -/
theorem convert_snd (text : Text) (tree : ParseTree) (next : Nat) :
    (convert text tree next).2 = next + tree.count := by
  apply convertInduction text (P := fun tree next _ after => after = next + tree.count)
    (Q := fun trees next _ after => after = next + (namedTreesOfList trees).length)
  · intro row children next node nodes after _ _ hafter
    rw [hafter, ParseTree.count_mk]
    omega
  · intro next
    rfl
  · intro tree rest next nodes after htoken hafter
    rw [hafter, namedTreesOfList, if_neg (Bool.eq_false_iff.mp htoken), List.nil_append]
  · intro tree rest next node between nodes after hnamed hbetween hafter
    rw [hafter, hbetween, namedTreesOfList, if_pos hnamed, List.length_append, ParseTree.count]
    omega

/-- What `convert` makes of a tree with its number. -/
def nodeOf (text : Text) (numbered : ParseTree × Nat) : Node :=
  (convert text numbered.1 numbered.2).1

theorem convertEach_eq (text : Text) (trees : List ParseTree) (next : Nat) :
    (convertEach text trees next).1 = (numbered trees next).map (nodeOf text) := by
  induction trees generalizing next with
  | nil => rfl
  | cons tree rest ih =>
    rw [convertEach, numbered]
    split
    · rw [List.map_cons, ← ih, ← convert_snd text]
      rfl
    · exact ih next

@[simp]
theorem header_nodeOf (text : Text) (numbered : ParseTree × Nat) :
    (nodeOf text numbered).header = headerOf text numbered.1.row numbered.2 := by
  obtain ⟨⟨row, children⟩, next⟩ := numbered
  rfl

@[simp]
theorem id_nodeOf (text : Text) (numbered : ParseTree × Nat) :
    (nodeOf text numbered).id = numbered.2 :=
  congrArg Header.id (header_nodeOf text numbered)

/-- The children of a node are some of the nodes of the `numbered` children of its tree. -/
theorem children_nodeOf_subperm (text : Text) (row : Row) (children : List ParseTree)
    (next : Nat) :
    (nodeOf text (.mk row children, next)).children.Subperm
      ((numbered children (next + 1)).map (nodeOf text)) := by
  obtain ⟨hchildren, -⟩ :=
    convertChildren_subperm text (Kind.ofProduction row.production) children [] (next + 1)
  rw [← convertEach_eq]
  exact (children_attachScalars row text _ _).subperm.trans hchildren

/-- **Every node of a converted tree is a conversion** (`nodeOf`), of the tree at its number. -/
theorem exists_tree_of_mem_nodes {tree : ParseTree} {node : Node}
    (h : node ∈ (nodeOf text (tree, next)).nodes) :
    ∃ numbered ∈ tree.namedTrees.zipIdx next, nodeOf text numbered = node := by
  induction tree using ParseTree.childrenInduction generalizing next with
  | step row children ih =>
    rcases Node.mem_nodes_iff.mp h with rfl | ⟨child, hchild, hbelow⟩
    · exact ⟨_, self_mem_zipIdx _ next, rfl⟩
    · obtain ⟨source, hsource, rfl⟩ :=
        List.mem_map.mp ((children_nodeOf_subperm text row children next).subset hchild)
      obtain ⟨numbered, hnumbered, hnode⟩ :=
        ih source.1 (mem_of_mem_numbered hsource).1 hbelow
      refine ⟨numbered, ?_, hnode⟩
      rw [zipIdx_namedTrees]
      exact List.mem_cons_of_mem _ (List.mem_flatMap.mpr ⟨source, hsource, hnumbered⟩)

end Parse

end SyntaxGraft
