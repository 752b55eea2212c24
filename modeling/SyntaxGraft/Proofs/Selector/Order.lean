import SyntaxGraft.Proofs.Graft.Substitution
import SyntaxGraft.Proofs.Parse.SourceOrder
import SyntaxGraft.Proofs.Selector.Completeness
import SyntaxGraft.Proofs.Tree.Preorder
/-!
# The order of results

What a selector finds is settled by the positions at which it matches, in pre-order
(`Selector.exists_foundAt`).  A list of alternatives finds what one of them finds, merged into one
such list (`Selector.exists_joined`).  In a parsed tree whose fields keep the order of the source,
pre-order is the order of the text (`Selector.pairwise_evaluate`).
-/

namespace SyntaxGraft

namespace Selector

/-- The selector finds the nodes at these positions: all where it matches, each once, in
pre-order. -/
structure FoundAt (selector : Selector) (tree : Tree) (positions : List (List Nat)) : Prop where
  sorted : positions.Pairwise (· < ·)
  mem_iff : ∀ position, position ∈ positions ↔
    ∃ found, Occurrence.at? ⟨tree.root, []⟩ position = some found ∧ selector.holds found = true
  evaluate_eq : selector.evaluate tree = positions.filterMap fun position =>
    (Occurrence.at? ⟨tree.root, []⟩ position).map Occurrence.node

/-- **What is found is what matches**, in pre-order (`FoundAt`). -/
theorem exists_foundAt (selector : Selector) (tree : Tree) :
    ∃ positions, selector.FoundAt tree positions := by
  -- The walk of the whole tree goes through its positions in order; what matches is filtered out.
  obtain ⟨all, hsorted, hvisited, hcomplete⟩ := Occurrence.exists_positions ⟨tree.root, []⟩
  have hwalk : tree.root.occurrences [] = all.filterMap (Occurrence.at? ⟨tree.root, []⟩) := by
    have hids := congrArg (List.filterMap id) hvisited
    rw [List.filterMap_map, List.filterMap_map] at hids
    simpa using hids.symm
  refine ⟨all.filter fun position => (Occurrence.at? ⟨tree.root, []⟩ position).any selector.holds,
    hsorted.sublist List.filter_sublist, ?_, ?_⟩
  · intro position
    rw [List.mem_filter, Option.any_eq_true]
    constructor
    · rintro ⟨-, found, hfound, hholds⟩
      exact ⟨found, hfound, hholds⟩
    · rintro ⟨found, hfound, hholds⟩
      exact ⟨hcomplete position found hfound, found, hfound, hholds⟩
  · rw [evaluate, evaluateFrom_eq, hwalk, List.filter_filterMap, List.map_filterMap,
      List.filterMap_filter]
    apply List.filterMap_congr
    intro position _
    cases Occurrence.at? ⟨tree.root, []⟩ position with
    | none => rfl
    | some found => cases hholds : selector.holds found <;> simp [Option.filter, hholds]

/-! ### Alternatives -/

theorem holds_append (text : Text) (first second : SelectorList) (occurrence : Occurrence) :
    holds ⟨text, some (first ++ second)⟩ occurrence
      = (SelectorList.holds first occurrence || SelectorList.holds second occurrence) := by
  show someComplexHolds (first ++ second) occurrence = _
  unfold SelectorList.holds
  induction first with
  | nil => rfl
  | cons complex rest ih =>
    rw [List.cons_append, someComplexHolds, someComplexHolds, ih, Bool.or_assoc]

end Selector

namespace SelectorGrammar

/-- Two texts that `SpellsList` takes, with a comma between them, are one. -/
theorem SpellsList.append {text other : Text} {list rest : SelectorList}
    (h : SpellsList text list) (hother : SpellsList other rest) :
    SpellsList (text ++ ',' :: other) (list ++ rest) := by
  cases h with
  | one hbefore h hafter =>
    rw [List.append_assoc, List.append_assoc]
    exact .more hbefore h hafter hother
  | more hbefore h hafter hrest =>
    rw [List.append_assoc, List.append_assoc, List.append_assoc]
    exact .more hbefore h hafter (hrest.append hother)

end SelectorGrammar

/-- A comma behind a text does not make it a shorthand: `scan` decides by the first two characters,
and the comma is not among them. -/
theorem Shorthand.scan_append {text : Text} (hne : text ≠ []) (h : scan text = none)
    (other : Text) : scan (text ++ ',' :: other) = none := by
  match text with
  | [] => exact absurd rfl hne
  | [c] =>
    unfold scan
    split
    · next heq => simp at heq
    · rfl
  | c :: d :: rest =>
    unfold scan at h ⊢
    split
    · next heq =>
      obtain ⟨rfl, hrest⟩ := List.cons.inj heq
      obtain ⟨rfl, -⟩ := List.cons.inj hrest
      split at h
      · split at h <;> cases h
      · next hother => exact absurd rfl (hother rest)
    · rfl

namespace Selector

/-- A text that is no shorthand compiles to the list that `readList` reads of it. -/
theorem compile_eq_ok_iff {text : Text} {selector : Selector} (hne : text ≠ [])
    (hplain : Shorthand.scan text = none) :
    compile text = .ok selector ↔
      ∃ list, SelectorReader.readList text = .ok list ∧ ⟨text, some list⟩ = selector := by
  have hempty : ¬ text.isEmpty = true := fun h => hne (List.isEmpty_iff.mp h)
  rw [compile, if_neg hempty, hplain]
  cases SelectorReader.readList text with
  | error error => simp [Except.map]
  | ok list => simp [Except.map]

/-- **Two selectors with a comma between them find what one of them finds**, in pre-order and
without duplicates. -/
theorem exists_joined {first second : Text} {left right : Selector}
    (hfirst : compile first = .ok left) (hsecond : compile second = .ok right)
    (hnonempty : first ≠ [] ∧ second ≠ [])
    (hplain : Shorthand.scan first = none ∧ Shorthand.scan second = none) {tree : Tree}
    {lefts rights : List (List Nat)} (hlefts : left.FoundAt tree lefts)
    (hrights : right.FoundAt tree rights) :
    ∃ joined positions, compile (first ++ ',' :: second) = .ok joined ∧
      joined.FoundAt tree positions ∧
      ∀ position, position ∈ positions ↔ position ∈ lefts ∨ position ∈ rights := by
  obtain ⟨list, hlist, rfl⟩ := (compile_eq_ok_iff hnonempty.1 hplain.1).mp hfirst
  obtain ⟨rest, hrest, rfl⟩ := (compile_eq_ok_iff hnonempty.2 hplain.2).mp hsecond
  have hread : SelectorReader.readList (first ++ ',' :: second) = .ok (list ++ rest) := by
    rw [SelectorReader.readList_eq_ok_iff] at hlist hrest ⊢
    exact hlist.append hrest
  obtain ⟨positions, hfound⟩ := exists_foundAt ⟨first ++ ',' :: second, some (list ++ rest)⟩ tree
  refine ⟨_, positions, ?_, hfound, ?_⟩
  · exact (compile_eq_ok_iff (by simp) (Shorthand.scan_append hnonempty.1 hplain.1 second)).mpr
      ⟨_, hread, rfl⟩
  · intro position
    rw [hfound.mem_iff, hlefts.mem_iff, hrights.mem_iff, ← exists_or]
    apply exists_congr
    intro found
    rw [holds_append, Bool.or_eq_true, and_or_left]
    rfl

/-! ### The order of the text -/

/-- **In a parsed tree whose fields keep the order of the source, results come in the order of the
text.** -/
theorem pairwise_evaluate (selector : Selector) {text : Text} {parsed : ParseTree}
    (nested : parsed.Nested) (apart : ∀ found ∈ parsed.namedTrees, found.TokensApart)
    (together : ∀ number found, parsed.namedTrees[number]? = some found →
      ∀ node ∈ (Tree.ofParseTree text parsed).root.nodes, node.id = number →
      Parse.Together found number node) :
    (selector.evaluate (Tree.ofParseTree text parsed)).Pairwise fun node other =>
      node.id < other.id ∧ ∃ span later, node.span? = some span ∧ other.span? = some later ∧
        span.start ≤ later.start := by
  have hids : (Parse.nodeOf text (parsed, 0)).ids.Pairwise (· < ·) := by
    apply Parse.pairwise_ids_nodeOf text apart
    intro found hfound hnode
    exact together found.2 found.1 (List.mem_zipIdx_iff_getElem?.mp hfound) _ hnode
      (Parse.id_nodeOf text found)
  -- Everything found is a node of the tree, in order.
  have hsublist : (selector.evaluate (Tree.ofParseTree text parsed)).Sublist
      (Parse.nodeOf text (parsed, 0)).nodes := by
    rw [evaluate, evaluateFrom_eq]
    exact List.filter_sublist.map _
  refine ((List.pairwise_map.mp hids).imp_of_mem ?_).sublist hsublist
  intro node other hnode hother hlt
  obtain ⟨source, hsource, rfl⟩ := Parse.exists_tree_of_mem_nodes hnode
  obtain ⟨target, htarget, rfl⟩ := Parse.exists_tree_of_mem_nodes hother
  refine ⟨hlt, source.1.row.spanIn text, target.1.row.spanIn text, ?_, ?_, ?_⟩
  · rw [Node.span?, Parse.header_nodeOf]
    rfl
  · rw [Node.span?, Parse.header_nodeOf]
    rfl
  · rw [Parse.id_nodeOf, Parse.id_nodeOf] at hlt
    -- An identity is a place among the named trees, and their starts do not decrease.
    obtain ⟨hplace, hsourceEq⟩ :=
      List.getElem?_eq_some_iff.mp (List.mem_zipIdx_iff_getElem?.mp hsource)
    obtain ⟨hlater, htargetEq⟩ :=
      List.getElem?_eq_some_iff.mp (List.mem_zipIdx_iff_getElem?.mp htarget)
    have hstarts := List.pairwise_iff_getElem.mp nested.pairwise_start source.2 target.2 hplace
      hlater hlt
    rw [hsourceEq, htargetEq] at hstarts
    exact hstarts

/-- **Selection is an exact filter in pre-order.**  Alternatives are merged, and where the fields of
a parsed tree keep the order of the source, results come in the order of the text. -/
theorem evaluate_in_order (selector : Selector) (tree : Tree) :
    (∃ positions, selector.FoundAt tree positions) ∧
    (∀ first second left right lefts rights, compile first = .ok left →
      compile second = .ok right → first ≠ [] ∧ second ≠ [] →
      Shorthand.scan first = none ∧ Shorthand.scan second = none →
      left.FoundAt tree lefts → right.FoundAt tree rights →
      ∃ joined positions, compile (first ++ ',' :: second) = .ok joined ∧
        joined.FoundAt tree positions ∧
        ∀ position, position ∈ positions ↔ position ∈ lefts ∨ position ∈ rights) ∧
    (∀ grammar text parsed, grammar text = some parsed → Tree.parse grammar text = .ok tree →
      parsed.Nested → (∀ found ∈ parsed.namedTrees, found.TokensApart) →
      (∀ number found, parsed.namedTrees[number]? = some found →
        ∀ node ∈ tree.root.nodes, node.id = number → Parse.Together found number node) →
      (selector.evaluate tree).Pairwise fun node other =>
        node.id < other.id ∧ ∃ span later, node.span? = some span ∧ other.span? = some later ∧
          span.start ≤ later.start) := by
  refine ⟨selector.exists_foundAt tree, ?_, ?_⟩
  · intro first second left right lefts rights hfirst hsecond hnonempty hplain hlefts hrights
    exact exists_joined hfirst hsecond hnonempty hplain hlefts hrights
  · intro grammar text parsed hparsed hparse nested apart together
    obtain ⟨other, hother, -, rfl⟩ := Tree.parse_eq_ok_iff.mp hparse
    obtain rfl := Option.some.inj (hparsed.symm.trans hother)
    exact selector.pairwise_evaluate nested apart together

/-- One call inside another: the outer one comes first. -/
theorem evaluate_in_order_nested_calls :
    let tree := Tree.ofParseTree Sample.product Sample.productTree
    let selector : Selector := ⟨Sample.calls, some [.compound (.mk (some "CallExpression") [] [])]⟩
    (selector.evaluate tree).length = 2 ∧
      (selector.evaluate tree).Pairwise fun node other =>
        node.id < other.id ∧ ∃ span later, node.span? = some span ∧ other.span? = some later ∧
          span.start ≤ later.start := by
  have nested : Sample.productTree.Nested :=
    (by decide +kernel : Sample.productTree.WellFormed Sample.product).nested
  have apart : ∀ found ∈ Sample.productTree.namedTrees, found.TokensApart := by decide +kernel
  have together : ∀ found ∈ Sample.productTree.namedTrees.zipIdx,
      ∀ node ∈ (Tree.ofParseTree Sample.product Sample.productTree).root.nodes,
      node.id = found.2 → Parse.Together found.1 found.2 node := by decide +kernel
  intro tree selector
  obtain ⟨-, -, horder⟩ := selector.evaluate_in_order tree
  refine ⟨rfl, horder Sample.grammar Sample.product Sample.productTree rfl rfl nested apart ?_⟩
  intro number found hfound
  exact together (found, number) (List.mem_zipIdx_iff_getElem?.mpr hfound)

end Selector

end SyntaxGraft
