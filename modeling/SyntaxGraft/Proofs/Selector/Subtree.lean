import SyntaxGraft.Proofs.Selector.Order
import SyntaxGraft.Proofs.Graft.SecondPass
/-!
# Selecting in a part of a tree

A selector evaluated from a node on sees nothing above that node: the path of a place begins there.
Whether that matters is a question of what the selector is made of (`Selector.features`).

* More path can only help a selector without negation (`Complex.holds_under`).
* A selector without combinators and tests of position does not look at the path at all
  (`Complex.holds_under_eq`).

So what such selectors find from a node on is a part of what they find in the whole tree, or exactly
what they find there below the node (`Selector.evaluateFrom_within`).
-/

namespace SyntaxGraft

/-! ### What a selector is made of -/

/-- What makes a selector look further than at a node and what is below it, or turns a match into
none. -/
inductive Feature where
  | combinator
  | negation
  /-- A test of the position in a sequence (`Occurrence.hasPosition`). -/
  | position
deriving DecidableEq

mutual

/-- The features at all levels of a chain. -/
def Complex.features : Complex → List Feature
  | .compound subject => subject.features
  | .combined left _ subject => .combinator :: left.features ++ subject.features

/-- The features at all levels of a compound. -/
def Compound.features : Compound → List Feature
  | .mk _ _ pseudos => pseudoFeatures pseudos

/-- The features at all levels of a pseudo-class. -/
def Pseudo.features : Pseudo → List Feature
  | .not list => .negation :: complexFeatures list
  | .is list => complexFeatures list
  | .has list => complexFeatures list
  | .firstChild => [.position]
  | .lastChild => [.position]
  | .nthChild _ => [.position]
  | .nthLastChild _ => [.position]
  | .statement => []
  | .expression => []

/-- The features of some pseudo-classes. -/
def pseudoFeatures : List Pseudo → List Feature
  | [] => []
  | pseudo :: rest => pseudo.features ++ pseudoFeatures rest

/-- The features of some chains. -/
def complexFeatures : List Complex → List Feature
  | [] => []
  | complex :: rest => complex.features ++ complexFeatures rest

end

/-- The features at all levels of a selector; one without a list (`none`) has no features. -/
def Selector.features (selector : Selector) : List Feature :=
  match selector.list with
  | some list => complexFeatures list
  | none => []

/-! ### Longer paths -/

namespace Occurrence

/-- The same place, seen from further up: the path goes on with `above`. -/
def under (above : Path) (occurrence : Occurrence) : Occurrence :=
  ⟨occurrence.node, occurrence.path ++ above⟩

variable (above : Path)

/-- The ends along a longer path: those along its first part, and then those further up. -/
theorem endsOf_append (path above : Path) :
    endsOf (path ++ above) = (endsOf path).map (under above) ++ endsOf above := by
  induction path with
  | nil => rfl
  | cons step rest ih => rw [List.cons_append, endsOf, endsOf, ih]; rfl

/-- The elements before an index, each seen from further up. -/
theorem elementsBefore_append (step : Step) (rest : Path) (siblings : List Node) (index : Nat) :
    elementsBefore step (rest ++ above) siblings index
      = (elementsBefore step rest siblings index).map (under above) := by
  induction index with
  | zero => rfl
  | succ index ih =>
    rw [elementsBefore, elementsBefore]
    split
    · rw [ih]; rfl
    · exact ih

/-- Below the top, the earlier siblings are the same from further up. -/
theorem earlierSiblings_under (node : Node) (step : Step) (rest : Path) :
    (under above ⟨node, step :: rest⟩).earlierSiblings
      = (earlierSiblings ⟨node, step :: rest⟩).map (under above) := by
  rw [under, earlierSiblings, earlierSiblings]
  dsimp only [List.cons_append]
  split
  · exact elementsBefore_append above _ _ _ _
  · rfl

/-- From further up, what is related (`Combinator.related`) still is, and comes first. -/
theorem related_under (combinator : Combinator) (occurrence : Occurrence) :
    (combinator.related occurrence).map (under above)
      <+: combinator.related (occurrence.under above) := by
  obtain ⟨node, path⟩ := occurrence
  cases path with
  | nil =>
    -- At the top nothing is related.
    cases combinator <;> exact List.nil_prefix
  | cons step rest =>
    cases combinator with
    | descendant =>
      show (endsOf _).map (under above) <+: endsOf (step :: rest ++ above)
      rw [endsOf_append]
      exact List.prefix_append _ _
    | child => exact List.prefix_rfl
    -- Siblings are below the top, so there are the same of them.
    | sibling =>
      have hsame := earlierSiblings_under above node step rest
      exact ⟨[], (List.append_nil _).trans hsame.symm⟩
    | adjacent =>
      have hsame := congrArg (List.take 1) (earlierSiblings_under above node step rest)
      rw [← List.map_take] at hsame
      exact ⟨[], (List.append_nil _).trans hsame.symm⟩

/-- From further up, a position stays what it is.  The converse fails: at the top there is none. -/
theorem hasPosition_under {wanted : Nat → Nat → Bool} {occurrence : Occurrence}
    (h : occurrence.hasPosition wanted = true) :
    (occurrence.under above).hasPosition wanted = true := by
  obtain ⟨node, path⟩ := occurrence
  cases path with
  | nil => cases h
  | cons step rest => exact h

theorem children_under (occurrence : Occurrence) :
    (occurrence.under above).children = occurrence.children.map (under above) := by
  unfold children
  rw [List.map_flatMap]
  apply List.flatMap_congr
  intro field _
  unfold Field.occurrences
  cases field.value with
  | node child => rfl
  | nodes children =>
    apply List.ext_getElem?
    intro index
    rw [List.getElem?_mapIdx, List.getElem?_map, List.getElem?_mapIdx, Option.map_map]
    rfl
  | scalar value => rfl

/-- From further up, the places from a node on (`Node.occurrences`) are the same. -/
theorem occurrences_under (occurrence : Occurrence) :
    occurrence.node.occurrences (occurrence.path ++ above)
      = (occurrence.node.occurrences occurrence.path).map (under above) := by
  -- By induction on the tree below: the place itself, and what is below each child.
  induction occurrence using Occurrence.childrenInduction with
  | step occurrence ih =>
    have hself := occurrences_eq (occurrence.under above)
    rw [descendants_eq, children_under, List.flatMap_map] at hself
    rw [occurrences_eq, descendants_eq, List.map_cons, List.map_flatMap]
    exact hself.trans (congrArg _ (List.flatMap_congr ih))

theorem descendants_under (occurrence : Occurrence) :
    (occurrence.under above).descendants = occurrence.descendants.map (under above) := by
  rw [descendants_eq, descendants_eq, children_under, List.flatMap_map, List.map_flatMap]
  exact List.flatMap_congr fun child _ => occurrences_under above child

theorem at?_under (occurrence : Occurrence) (position : List Nat) :
    (occurrence.under above).at? position = (occurrence.at? position).map (under above) := by
  induction position generalizing occurrence with
  | nil => rfl
  | cons number rest ih =>
    rw [at?, at?, children_under, List.getElem?_map, Option.map_bind]
    cases occurrence.children[number]? with
    | none => rfl
    | some child => exact ih child

end Occurrence

/-! ### Matching further up -/

section Matching

variable (above : Path)

mutual

/-- **More path can only help** a selector without `Feature.negation`. -/
theorem Complex.holds_under : ∀ {complex : Complex} {occurrence : Occurrence},
    Feature.negation ∉ complex.features → complex.holds occurrence = true →
    complex.holds (occurrence.under above) = true
  | .compound subject, occurrence => by
    intro hfree h
    exact Compound.holds_under hfree h
  | .combined left combinator subject, occurrence => by
    intro hfree h
    rw [Complex.features, List.cons_append, List.mem_cons, List.mem_append, not_or, not_or]
      at hfree
    obtain ⟨-, hleft, hsubject⟩ := hfree
    rw [Complex.holds, Bool.and_eq_true, List.any_eq_true] at h ⊢
    obtain ⟨hhere, related, hrelated, hholds⟩ := h
    -- The related place that was found is still among those that are tried.
    refine ⟨Compound.holds_under hsubject hhere, related.under above, ?_,
      Complex.holds_under hleft hholds⟩
    exact (Occurrence.related_under above combinator occurrence).subset
      (List.mem_map_of_mem hrelated)

theorem Compound.holds_under : ∀ {compound : Compound} {occurrence : Occurrence},
    Feature.negation ∉ compound.features → compound.holds occurrence = true →
    compound.holds (occurrence.under above) = true
  | .mk kind attributes pseudos, occurrence => by
    intro hfree h
    unfold Compound.holds at h ⊢
    rw [Bool.and_eq_true] at h ⊢
    exact ⟨h.1, allPseudosHold_under hfree h.2⟩

theorem Pseudo.holds_under : ∀ {pseudo : Pseudo} {occurrence : Occurrence},
    Feature.negation ∉ pseudo.features → pseudo.holds occurrence = true →
    pseudo.holds (occurrence.under above) = true
  | .not list, _ => fun hfree _ => absurd List.mem_cons_self hfree
  | .is list, _ => by
    intro hfree h
    rw [Pseudo.holds] at h ⊢
    exact someComplexHolds_under hfree h
  | .has list, occurrence => by
    intro hfree h
    rw [Pseudo.holds, List.any_eq_true] at h ⊢
    obtain ⟨below, hbelow, hholds⟩ := h
    -- The places below see the longer path as well.
    refine ⟨below.under above, ?_, someComplexHolds_under hfree hholds⟩
    rw [Occurrence.descendants_under]
    exact List.mem_map_of_mem hbelow
  | .firstChild, _ => fun _ h => Occurrence.hasPosition_under above h
  | .lastChild, _ => fun _ h => Occurrence.hasPosition_under above h
  | .nthChild _, _ => fun _ h => Occurrence.hasPosition_under above h
  | .nthLastChild _, _ => fun _ h => Occurrence.hasPosition_under above h
  | .statement, _ => fun _ h => h
  | .expression, _ => fun _ h => h

theorem allPseudosHold_under : ∀ {pseudos : List Pseudo} {occurrence : Occurrence},
    Feature.negation ∉ pseudoFeatures pseudos → allPseudosHold pseudos occurrence = true →
    allPseudosHold pseudos (occurrence.under above) = true
  | [], _ => fun _ _ => rfl
  | pseudo :: rest, occurrence => by
    intro hfree h
    rw [pseudoFeatures, List.mem_append, not_or] at hfree
    rw [allPseudosHold, Bool.and_eq_true] at h ⊢
    exact ⟨Pseudo.holds_under hfree.1 h.1, allPseudosHold_under hfree.2 h.2⟩

theorem someComplexHolds_under : ∀ {list : List Complex} {occurrence : Occurrence},
    Feature.negation ∉ complexFeatures list → someComplexHolds list occurrence = true →
    someComplexHolds list (occurrence.under above) = true
  | [], _ => fun _ h => h
  | complex :: rest, occurrence => by
    intro hfree h
    rw [complexFeatures, List.mem_append, not_or] at hfree
    rw [someComplexHolds, Bool.or_eq_true] at h ⊢
    exact h.imp (Complex.holds_under hfree.1) (someComplexHolds_under hfree.2)

end

mutual

/-- **The path does not matter** to a selector without combinators and tests of position. -/
theorem Complex.holds_under_eq : ∀ {complex : Complex} {occurrence : Occurrence},
    (∀ feature ∈ complex.features, feature = .negation) →
    complex.holds (occurrence.under above) = complex.holds occurrence
  | .compound subject, occurrence => by
    intro honly
    exact Compound.holds_under_eq honly
  | .combined left combinator subject, _ => by
    intro honly
    exact absurd (honly .combinator List.mem_cons_self) (by decide)

theorem Compound.holds_under_eq : ∀ {compound : Compound} {occurrence : Occurrence},
    (∀ feature ∈ compound.features, feature = .negation) →
    compound.holds (occurrence.under above) = compound.holds occurrence
  | .mk kind attributes pseudos, occurrence => by
    intro honly
    unfold Compound.holds
    rw [allPseudosHold_under_eq honly]
    rfl

theorem Pseudo.holds_under_eq : ∀ {pseudo : Pseudo} {occurrence : Occurrence},
    (∀ feature ∈ pseudo.features, feature = .negation) →
    pseudo.holds (occurrence.under above) = pseudo.holds occurrence
  | .not list, _ => by
    intro honly
    rw [Pseudo.holds, Pseudo.holds,
      someComplexHolds_under_eq (List.forall_mem_cons.mp honly).2]
  | .is list, _ => by
    intro honly
    rw [Pseudo.holds, Pseudo.holds, someComplexHolds_under_eq honly]
  | .has list, occurrence => by
    intro honly
    rw [Pseudo.holds, Pseudo.holds, Occurrence.descendants_under, List.any_map]
    apply congrArg occurrence.descendants.any
    funext below
    exact someComplexHolds_under_eq honly
  | .firstChild, _ => fun honly => absurd (honly .position List.mem_cons_self) (by decide)
  | .lastChild, _ => fun honly => absurd (honly .position List.mem_cons_self) (by decide)
  | .nthChild _, _ => fun honly => absurd (honly .position List.mem_cons_self) (by decide)
  | .nthLastChild _, _ => fun honly => absurd (honly .position List.mem_cons_self) (by decide)
  | .statement, _ => fun _ => rfl
  | .expression, _ => fun _ => rfl

theorem allPseudosHold_under_eq : ∀ {pseudos : List Pseudo} {occurrence : Occurrence},
    (∀ feature ∈ pseudoFeatures pseudos, feature = .negation) →
    allPseudosHold pseudos (occurrence.under above) = allPseudosHold pseudos occurrence
  | [], _ => fun _ => rfl
  | pseudo :: rest, occurrence => by
    intro honly
    obtain ⟨hfirst, hrest⟩ := List.forall_mem_append.mp honly
    rw [allPseudosHold, allPseudosHold, Pseudo.holds_under_eq hfirst,
      allPseudosHold_under_eq hrest]

theorem someComplexHolds_under_eq : ∀ {list : List Complex} {occurrence : Occurrence},
    (∀ feature ∈ complexFeatures list, feature = .negation) →
    someComplexHolds list (occurrence.under above) = someComplexHolds list occurrence
  | [], _ => fun _ => rfl
  | complex :: rest, occurrence => by
    intro honly
    obtain ⟨hfirst, hrest⟩ := List.forall_mem_append.mp honly
    rw [someComplexHolds, someComplexHolds, Complex.holds_under_eq hfirst,
      someComplexHolds_under_eq hrest]

end

end Matching

namespace Selector

variable {selector : Selector}

/-- A match stays one from further up, without `Feature.negation`. -/
theorem holds_under (hfree : Feature.negation ∉ selector.features) (above : Path)
    {occurrence : Occurrence} (h : selector.holds occurrence = true) :
    selector.holds (occurrence.under above) = true := by
  obtain ⟨text, list⟩ := selector
  cases list with
  | none => exact h
  | some list => exact someComplexHolds_under above hfree h

/-- From further up there are the same matches, without combinators and tests of position. -/
theorem holds_under_eq (hcombinator : Feature.combinator ∉ selector.features)
    (hposition : Feature.position ∉ selector.features) (above : Path) (occurrence : Occurrence) :
    selector.holds (occurrence.under above) = selector.holds occurrence := by
  have honly : ∀ feature ∈ selector.features, feature = .negation := by
    intro feature hfeature
    cases feature with
    | combinator => exact absurd hfeature hcombinator
    | negation => rfl
    | position => exact absurd hfeature hposition
  obtain ⟨text, list⟩ := selector
  cases list with
  | none => rfl
  | some list => exact someComplexHolds_under_eq above honly

end Selector

/-! ### Results -/

namespace Occurrence

variable {root : Node} {position : List Nat} {here : Occurrence}

/-- What stands below a place is what stands at the top of the tree from there on, seen from further
up. -/
theorem at?_below (h : at? ⟨root, []⟩ position = some here) (below : List Nat) :
    at? ⟨root, []⟩ (position ++ below) = (at? ⟨here.node, []⟩ below).map (under here.path) := by
  rw [at?_append, h]
  exact at?_under here.path ⟨here.node, []⟩ below

end Occurrence

namespace Selector

variable {selector : Selector} {tree : Tree} {position : List Nat} {here : Occurrence}
  {whole inside : List (List Nat)}

/-- What is found from a node on (`FoundAt`) is found below the place of the node in the whole tree.
-/
theorem FoundAt.evaluateFrom_eq (hinside : selector.FoundAt { tree with root := here.node } inside)
    (hhere : Occurrence.at? ⟨tree.root, []⟩ position = some here) :
    selector.evaluateFrom here.node = (inside.map (position ++ ·)).filterMap fun place =>
      (Occurrence.at? ⟨tree.root, []⟩ place).map Occurrence.node := by
  refine hinside.evaluate_eq.trans ?_
  rw [List.filterMap_map]
  apply List.filterMap_congr
  intro below _
  rw [Function.comp_apply, Occurrence.at?_below hhere, Option.map_map]
  rfl

theorem FoundAt.sorted_below (hinside : selector.FoundAt { tree with root := here.node } inside)
    (position : List Nat) : (inside.map (position ++ ·)).Pairwise (· < ·) :=
  List.pairwise_map.mpr (hinside.sorted.imp fun hlt => List.append_left_lt hlt)

/-- Without negation, what is found from a node on is found in the whole tree, in the same order. -/
theorem FoundAt.sublist_whole (hwhole : selector.FoundAt tree whole)
    (hinside : selector.FoundAt { tree with root := here.node } inside)
    (hhere : Occurrence.at? ⟨tree.root, []⟩ position = some here)
    (hfree : Feature.negation ∉ selector.features) :
    (inside.map (position ++ ·)).Sublist whole := by
  have hsorted := hinside.sorted_below position
  -- Both lists are sorted and without repetition, so being a part is a matter of members.
  refine List.sublist_of_subperm_of_pairwise (List.subperm_of_subset hsorted.nodup ?_) hsorted
    hwhole.sorted
  intro place hplace
  obtain ⟨below, hbelow, rfl⟩ := List.mem_map.mp hplace
  obtain ⟨found, hfound, hholds⟩ := (hinside.mem_iff below).mp hbelow
  have hat : Occurrence.at? ⟨tree.root, []⟩ (position ++ below) = some (found.under here.path) := by
    rw [Occurrence.at?_below hhere]
    exact congrArg (Option.map _) hfound
  exact (hwhole.mem_iff _).mpr ⟨_, hat, holds_under hfree here.path hholds⟩

/-- Without combinators and tests of position, what is found from a node on is what is found below
it in the whole tree. -/
theorem FoundAt.eq_filter_whole (hwhole : selector.FoundAt tree whole)
    (hinside : selector.FoundAt { tree with root := here.node } inside)
    (hhere : Occurrence.at? ⟨tree.root, []⟩ position = some here)
    (hcombinator : Feature.combinator ∉ selector.features)
    (hposition : Feature.position ∉ selector.features) :
    inside.map (position ++ ·) = whole.filter (position.isPrefixOf ·) := by
  refine List.Pairwise.eq_of_mem_iff (hinside.sorted_below position)
    (hwhole.sorted.sublist List.filter_sublist) ?_
  intro place
  rw [List.mem_map, List.mem_filter, List.isPrefixOf_iff_prefix]
  -- Below the node the two evaluations ask the same question.
  have hiff : ∀ below, below ∈ inside ↔ position ++ below ∈ whole := by
    intro below
    rw [hinside.mem_iff, hwhole.mem_iff, Occurrence.at?_below hhere]
    cases hfound : Occurrence.at? ⟨here.node, []⟩ below with
    | none => simp
    | some found => simp [holds_under_eq hcombinator hposition]
  constructor
  · rintro ⟨below, hbelow, rfl⟩
    exact ⟨(hiff below).mp hbelow, List.prefix_append _ _⟩
  · rintro ⟨hplace, below, rfl⟩
    exact ⟨below, (hiff below).mpr hplace, rfl⟩

/-- **Selecting from a node on and selecting in the whole tree.**  Without negation a match stays
one when the path to it gets longer, and what is found from a node on is part of what is found in
the tree, in the same order.  Without combinators and tests of position, it is all that is found
there below the node. -/
theorem evaluateFrom_within (selector : Selector) (tree : Tree) {position : List Nat}
    {here : Occurrence} (hhere : Occurrence.at? ⟨tree.root, []⟩ position = some here) :
    ∃ whole inside, selector.FoundAt tree whole ∧
      selector.FoundAt { tree with root := here.node } inside ∧
      (Feature.negation ∉ selector.features →
        (∀ node path above, selector.holds ⟨node, path⟩ = true →
          selector.holds ⟨node, path ++ above⟩ = true) ∧
        (inside.map (position ++ ·)).Sublist whole ∧
        (selector.evaluateFrom here.node).Sublist (selector.evaluate tree)) ∧
      (Feature.combinator ∉ selector.features → Feature.position ∉ selector.features →
        inside.map (position ++ ·) = whole.filter (position.isPrefixOf ·) ∧
        selector.evaluateFrom here.node
          = (whole.filter (position.isPrefixOf ·)).filterMap fun place =>
              (Occurrence.at? ⟨tree.root, []⟩ place).map Occurrence.node) := by
  obtain ⟨whole, hwhole⟩ := selector.exists_foundAt tree
  obtain ⟨inside, hinside⟩ := selector.exists_foundAt { tree with root := here.node }
  refine ⟨whole, inside, hwhole, hinside, ?_, ?_⟩
  · intro hfree
    have hsublist := hwhole.sublist_whole hinside hhere hfree
    refine ⟨fun node path above h => holds_under hfree above h, hsublist, ?_⟩
    rw [hinside.evaluateFrom_eq hhere, hwhole.evaluate_eq]
    exact hsublist.filterMap _
  · intro hcombinator hposition
    have heq := hwhole.eq_filter_whole hinside hhere hcombinator hposition
    exact ⟨heq, heq ▸ hinside.evaluateFrom_eq hhere⟩

/-- Of two calls, one inside the other, the arguments of the outer one have the inner one.  They are
found themselves as a child of the outer call, but not from themselves on, where they have no
parent. -/
theorem evaluateFrom_within_arguments :
    let tree := Tree.ofParseTree Sample.product Sample.productTree
    let calls : Selector := ⟨Sample.calls, some [.compound (.mk (some "CallExpression") [] [])]⟩
    let passed : Selector := ⟨"CallExpression > Arguments".toList, some [.combined
      (.compound (.mk (some "CallExpression") [] [])) .child (.mk (some "Arguments") [] [])]⟩
    ∃ here, Occurrence.at? ⟨tree.root, []⟩ [0, 0, 1, 1] = some here ∧
      here.node.kind = "Arguments" ∧
      (passed.evaluateFrom here.node).Sublist (passed.evaluate tree) ∧
      (passed.evaluateFrom here.node).map Node.id = [9] ∧
      (passed.evaluate tree).map Node.id = [6, 9] ∧
      ∃ whole, calls.FoundAt tree whole ∧
        calls.evaluateFrom here.node
          = (whole.filter ([0, 0, 1, 1].isPrefixOf ·)).filterMap fun place =>
              (Occurrence.at? ⟨tree.root, []⟩ place).map Occurrence.node := by
  intro tree calls passed
  refine ⟨_, rfl, rfl, ?_, by decide +kernel, by decide +kernel, ?_⟩
  · -- The combinator leaves the first part: the outer arguments are found only in the whole tree.
    obtain ⟨_, _, _, _, hfree, _⟩ := @evaluateFrom_within passed tree [0, 0, 1, 1] _ rfl
    exact (hfree (by decide)).2.2
  · obtain ⟨whole, _, hwhole, _, _, hlocal⟩ := @evaluateFrom_within calls tree [0, 0, 1, 1] _ rfl
    exact ⟨whole, hwhole, (hlocal (by decide) (by decide)).2⟩

end Selector

end SyntaxGraft
