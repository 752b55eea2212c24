import SyntaxGraft.Proofs.Parse.Conversion
import SyntaxGraft.Proofs.Tree.Kinship
import SyntaxGraft.Selector.Match
/-!
# What a selector means

A selector is read from left to right, as it is written: an alternative with compounds `c₀ … cₖ` and
combinators `g₁ … gₖ` holds at a place if there are places `p₀ … pₖ` in the tree, the last of them
the given one, with `cᵢ` true at `pᵢ` and neighbours related as the combinator between them says.
`SelectorList.HoldsAt` states this, with no word about the order in which places are tried.

The matcher goes from right to left and reads the kin of a place from its path.  It finds a chain of
places whenever there is one, and finds no other (`SelectorList.holds_iff_holdsAt`).  The proof has
a middle form, `Complex.HoldsAlong`, that follows the recursion of `Complex` and speaks of the
places at once: `Complex.holdsAlong_iff` leads from it to the meaning, and `Complex.holds_iff` from
the matcher to it.
-/

namespace SyntaxGraft

/-! ### The parts of an alternative -/

namespace Complex

/-- The compounds of a chain, the `subject` last. -/
def compounds : Complex → List Compound
  | .compound subject => [subject]
  | .combined left _ subject => left.compounds ++ [subject]

/-- The combinators of a chain, each between a compound and the next. -/
def combinators : Complex → List Combinator
  | .compound _ => []
  | .combined left combinator _ => left.combinators ++ [combinator]

theorem length_compounds : ∀ complex : Complex,
    complex.compounds.length = complex.combinators.length + 1
  | .compound _ => rfl
  | .combined left combinator subject => by
    rw [compounds, combinators, List.length_append, List.length_append, length_compounds left]
    rfl

end Complex

/-! ### Meaning -/

/-- The place on the `left` stands to that on the `right` as the combinator says. -/
def Combinator.Relates : Combinator → Occurrence → Occurrence → Prop
  | .descendant, left, right => left.IsAncestor right
  | .child, left, right => left.IsParent right
  | .sibling, left, right =>
    ∃ (parent : Occurrence) (name : String) (siblings : List Node) (index position : Nat),
      index < position ∧ parent.IsElement name siblings index left ∧
        parent.IsElement name siblings position right
  | .adjacent, left, right =>
    ∃ (parent : Occurrence) (name : String) (siblings : List Node) (index : Nat),
      parent.IsElement name siblings index left ∧
        parent.IsElement name siblings (index + 1) right

/-- The place is an element of a sequence, with index and length of the sequence as `wanted`. -/
def Occurrence.StandsWhere (wanted : Nat → Nat → Prop) (place : Occurrence) : Prop :=
  ∃ (parent : Occurrence) (name : String) (siblings : List Node) (index : Nat),
    parent.IsElement name siblings index place ∧ wanted index siblings.length

mutual

/-- The compounds hold along a list of places, neighbours being related as `Combinator.Relates`
says. -/
def Complex.HoldsAlong (root : Node) : Complex → List Occurrence → Prop
  | .compound subject, places => ∃ place, places = [place] ∧ subject.HoldsAt root place
  | .combined left combinator subject, places =>
    ∃ before related place, places = before ++ [related, place] ∧
      left.HoldsAlong root (before ++ [related]) ∧ combinator.Relates related place ∧
        subject.HoldsAt root place

/-- Kind, attributes and pseudo-classes are all as the compound asks; a compound without a kind
(`none`) asks for none. -/
def Compound.HoldsAt (root : Node) : Compound → Occurrence → Prop
  | .mk kind attributes pseudos, place =>
    (∀ wanted, kind = some wanted → Kind.satisfies wanted place.node.kind = true) ∧
      (∀ requirement ∈ attributes, requirement.holds place.node = true) ∧
        PseudosHoldAt root pseudos place

/-- The pseudo-class is true at a place of the tree. -/
def Pseudo.HoldsAt (root : Node) : Pseudo → Occurrence → Prop
  | .not list, place => ¬ SomeHoldsAt root list place
  | .is list, place => SomeHoldsAt root list place
  | .has list, place =>
    ∃ below ∈ root.occurrences [], place.IsAncestor below ∧ SomeHoldsAt root list below
  | .firstChild, place => place.StandsWhere fun index _ => index = 0
  | .lastChild, place => place.StandsWhere fun index length => index + 1 = length
  | .nthChild position, place => place.StandsWhere fun index _ => index + 1 = position
  | .nthLastChild position, place =>
    place.StandsWhere fun index length => index + position = length
  | .statement, place => Kind.isStatement place.node.kind = true
  | .expression, place => Kind.isExpression place.node.kind = true

/-- Every pseudo-class of a list is true at the place. -/
def PseudosHoldAt (root : Node) : List Pseudo → Occurrence → Prop
  | [], _ => True
  | pseudo :: rest, place => pseudo.HoldsAt root place ∧ PseudosHoldAt root rest place

/-- Some alternative holds along places (`Complex.HoldsAlong`) of the tree that end at the given
one. -/
def SomeHoldsAt (root : Node) : List Complex → Occurrence → Prop
  | [], _ => False
  | complex :: rest, place =>
    (∃ places : List Occurrence, (∀ each ∈ places, each ∈ root.occurrences []) ∧
      places.getLast? = some place ∧ complex.HoldsAlong root places) ∨
    SomeHoldsAt root rest place

end

theorem pseudosHoldAt_iff {root : Node} {pseudos : List Pseudo} {place : Occurrence} :
    PseudosHoldAt root pseudos place ↔ ∀ pseudo ∈ pseudos, pseudo.HoldsAt root place := by
  induction pseudos with
  | nil => simp [PseudosHoldAt]
  | cons pseudo rest ih => rw [PseudosHoldAt, ih, List.forall_mem_cons]

/-- **What a selector list says of a place.**  For some alternative there are places in the tree,
the last of them the given one, such that each compound is true at its place and each combinator
relates the place before it to the place after it. -/
def SelectorList.HoldsAt (root : Node) (list : SelectorList) (place : Occurrence) : Prop :=
  ∃ complex ∈ list, ∃ places : List Occurrence,
    (∀ each ∈ places, each ∈ root.occurrences []) ∧ places.getLast? = some place ∧
    List.Forall₂ (Compound.HoldsAt root) complex.compounds places ∧
    ∀ (index : Nat) (combinator : Combinator) (left right : Occurrence),
      complex.combinators[index]? = some combinator → places[index]? = some left →
      places[index + 1]? = some right → combinator.Relates left right

/-- One element more on the left has its partner at the end on the right
(`List.forall₂_cons_left_iff` from the other end). -/
theorem forall₂_concat_left_iff {α β : Type} {R : α → β → Prop} {items : List α} {last : α}
    {partners : List β} :
    List.Forall₂ R (items ++ [last]) partners ↔
      ∃ front partner, partners = front ++ [partner] ∧ List.Forall₂ R items front ∧
        R last partner := by
  constructor
  · intro h
    rw [← List.forall₂_reverse_iff, List.reverse_concat, List.forall₂_cons_left_iff] at h
    obtain ⟨partner, rest, hlast, hrest, hpartners⟩ := h
    refine ⟨rest.reverse, partner, ?_, ?_, hlast⟩
    · rw [← List.reverse_cons, ← hpartners, List.reverse_reverse]
    · rwa [← List.forall₂_reverse_iff, List.reverse_reverse]
  · rintro ⟨front, partner, rfl, hfront, hlast⟩
    exact List.rel_append hfront (.cons hlast .nil)

/-- One combinator more relates the last two places, `related` and `place`. -/
theorem Combinator.relates_concat_iff {combinators : List Combinator} {before : List Occurrence}
    (hlength : before.length = combinators.length) (last : Combinator)
    (related place : Occurrence) :
    (∀ (index : Nat) (combinator : Combinator) (left right : Occurrence),
      (combinators ++ [last])[index]? = some combinator →
      (before ++ [related] ++ [place])[index]? = some left →
      (before ++ [related] ++ [place])[index + 1]? = some right →
      combinator.Relates left right) ↔
    (∀ (index : Nat) (combinator : Combinator) (left right : Occurrence),
      combinators[index]? = some combinator → (before ++ [related])[index]? = some left →
      (before ++ [related])[index + 1]? = some right → combinator.Relates left right) ∧
      last.Relates related place := by
  have hlast : (before ++ [related] ++ [place])[combinators.length]? = some related := by
    simp [← hlength]
  have hend : (before ++ [related] ++ [place])[combinators.length + 1]? = some place := by
    simp [← hlength]
  constructor
  · intro h
    refine ⟨?_, h combinators.length last related place List.getElem?_concat_length hlast hend⟩
    -- The other combinators stand where they stood, and so do their places.
    intro index combinator left right hcombinator hleft hright
    apply h index combinator left right
    · rw [List.getElem?_append_left (List.getElem?_eq_some_iff.mp hcombinator).1, hcombinator]
    · rw [List.getElem?_append_left (List.getElem?_eq_some_iff.mp hleft).1, hleft]
    · rw [List.getElem?_append_left (List.getElem?_eq_some_iff.mp hright).1, hright]
  · rintro ⟨h, hrelates⟩ index combinator left right hcombinator hleft hright
    rcases Nat.lt_or_ge index combinators.length with hlt | hge
    · -- An earlier combinator: neither of its places is the new one.
      have hindex : index + 1 < (before ++ [related]).length := by
        rw [List.length_append, hlength]
        exact Nat.succ_lt_succ hlt
      rw [List.getElem?_append_left hlt] at hcombinator
      rw [List.getElem?_append_left (Nat.lt_of_succ_lt hindex)] at hleft
      rw [List.getElem?_append_left hindex] at hright
      exact h index combinator left right hcombinator hleft hright
    · -- The last combinator, between the last two places.
      obtain rfl : index = combinators.length := by
        have hbound := (List.getElem?_eq_some_iff.mp hcombinator).1
        rw [List.length_append, List.length_singleton] at hbound
        omega
      rw [List.getElem?_concat_length] at hcombinator
      obtain rfl := Option.some.inj hcombinator
      obtain rfl := Option.some.inj (hlast.symm.trans hleft)
      obtain rfl := Option.some.inj (hend.symm.trans hright)
      exact hrelates

/-- Step by step along the places (`HoldsAlong`), or for all compounds and all combinators at once.
-/
theorem Complex.holdsAlong_iff {root : Node} : ∀ {complex : Complex} {places : List Occurrence},
    complex.HoldsAlong root places ↔
      List.Forall₂ (Compound.HoldsAt root) complex.compounds places ∧
      ∀ (index : Nat) (combinator : Combinator) (left right : Occurrence),
        complex.combinators[index]? = some combinator → places[index]? = some left →
        places[index + 1]? = some right → combinator.Relates left right
  | .compound subject, places => by
    rw [HoldsAlong, compounds, combinators]
    constructor
    · rintro ⟨place, rfl, hsubject⟩
      exact ⟨.cons hsubject .nil, fun index combinator left right hnone => by cases hnone⟩
    · rintro ⟨hplaces, -⟩
      obtain ⟨place, rest, hsubject, hrest, rfl⟩ := List.forall₂_cons_left_iff.mp hplaces
      obtain rfl := List.forall₂_nil_left_iff.mp hrest
      exact ⟨place, rfl, hsubject⟩
  | .combined left combinator subject, places => by
    have hfront : ∀ {front : List Occurrence},
        List.Forall₂ (Compound.HoldsAt root) left.compounds front →
          front.length = left.combinators.length + 1 :=
      fun hplaces => hplaces.length_eq.symm.trans left.length_compounds
    rw [HoldsAlong, compounds, combinators, forall₂_concat_left_iff]
    constructor
    · rintro ⟨before, related, place, rfl, hleft, hrelates, hsubject⟩
      obtain ⟨hplaces, hpairs⟩ := holdsAlong_iff.mp hleft
      have hlength := hfront hplaces
      rw [List.length_append, List.length_singleton, Nat.add_right_cancel_iff] at hlength
      rw [List.append_cons before related [place]]
      exact ⟨⟨before ++ [related], place, rfl, hplaces, hsubject⟩,
        (Combinator.relates_concat_iff hlength combinator related place).mpr ⟨hpairs, hrelates⟩⟩
    · rintro ⟨⟨front, place, rfl, hplaces, hsubject⟩, hpairs⟩
      have hlength := hfront hplaces
      -- The left part has a compound, so there is a place before the last one.
      rcases List.eq_nil_or_concat' front with rfl | ⟨before, related, rfl⟩
      · cases hlength
      rw [List.length_append, List.length_singleton, Nat.add_right_cancel_iff] at hlength
      obtain ⟨hleft, hrelates⟩ :=
        (Combinator.relates_concat_iff hlength combinator related place).mp hpairs
      exact ⟨before, related, place, (List.append_cons before related [place]).symm,
        holdsAlong_iff.mpr ⟨hplaces, hleft⟩, hrelates, hsubject⟩

theorem someHoldsAt_iff {root : Node} {list : List Complex} {place : Occurrence} :
    SomeHoldsAt root list place ↔ SelectorList.HoldsAt root list place := by
  unfold SelectorList.HoldsAt
  induction list with
  | nil => simp [SomeHoldsAt]
  | cons complex rest ih =>
    rw [SomeHoldsAt, ih, List.exists_mem_cons_iff]
    simp only [Complex.holdsAlong_iff]

/-! ### The matcher -/

section

variable {root : Node} {place related : Occurrence}

/-- The places that the matcher tries (`Combinator.related`) are those that the combinator
relates. -/
theorem Combinator.mem_related_iff (distinct : root.FieldsDistinct)
    (h : place ∈ root.occurrences []) (combinator : Combinator) :
    related ∈ combinator.related place ↔ combinator.Relates related place := by
  cases combinator with
  | descendant => exact Occurrence.mem_ancestors_iff h
  | child => exact Option.mem_toList.trans (Occurrence.parent?_eq_some_iff h)
  | sibling => exact Occurrence.mem_earlierSiblings_iff distinct h
  | adjacent => exact Occurrence.mem_take_earlierSiblings_iff distinct h

/-- What is related (`Combinator.Relates`) to a place of the tree is in the tree. -/
theorem Combinator.Relates.mem_tree {combinator : Combinator} (h : place ∈ root.occurrences [])
    (hrelates : combinator.Relates related place) : related ∈ root.occurrences [] := by
  cases combinator with
  | descendant => exact Occurrence.ancestor_mem_tree h hrelates
  | child => exact Occurrence.parent_mem_tree h hrelates
  | sibling =>
    obtain ⟨parent, name, siblings, index, position, -, hrelated, hplace⟩ := hrelates
    exact Occurrence.mem_tree_of_isParent (Occurrence.parent_mem_tree h hplace.isParent)
      hrelated.isParent
  | adjacent =>
    obtain ⟨parent, name, siblings, index, hrelated, hplace⟩ := hrelates
    exact Occurrence.mem_tree_of_isParent (Occurrence.parent_mem_tree h hplace.isParent)
      hrelated.isParent

/-- What the matcher reads off the path (`Occurrence.hasPosition`) is said of the tree.  The test
need only agree with `wanted` at an index that the sequence has. -/
theorem Occurrence.hasPosition_iff (distinct : root.FieldsDistinct)
    (h : place ∈ root.occurrences []) {test : Nat → Nat → Bool} {wanted : Nat → Nat → Prop}
    (hwanted : ∀ index length, index < length → (test index length = true ↔ wanted index length)) :
    place.hasPosition test = true ↔ place.StandsWhere wanted := by
  unfold Occurrence.hasPosition Occurrence.StandsWhere
  constructor
  · intro htest
    split at htest
    next index length hposition =>
      obtain ⟨parent, name, siblings, rfl, helement⟩ :=
        (Occurrence.position?_eq_some_iff distinct h).mp hposition
      exact ⟨parent, name, siblings, index, helement,
        (hwanted index _ helement.lt).mp htest⟩
    next => cases htest
  · rintro ⟨parent, name, siblings, index, helement, htest⟩
    have hposition := (Occurrence.position?_eq_some_iff distinct h).mpr
      ⟨parent, name, siblings, rfl, helement⟩
    rw [hposition]
    exact (hwanted index _ helement.lt).mpr htest

mutual

/-- Going from the subject to the left, the matcher finds a chain of places if there is one. -/
theorem Complex.holds_iff (distinct : root.FieldsDistinct) : ∀ (complex : Complex)
    {place : Occurrence}, place ∈ root.occurrences [] →
    (complex.holds place = true ↔ ∃ places : List Occurrence,
      (∀ each ∈ places, each ∈ root.occurrences []) ∧ places.getLast? = some place ∧
        complex.HoldsAlong root places)
  | .compound subject, place, h => by
    rw [Complex.holds, Compound.holds_iff distinct subject h]
    constructor
    · intro hsubject
      exact ⟨[place], List.forall_mem_singleton.mpr h, rfl, place, rfl, hsubject⟩
    · rintro ⟨_, -, hlast, other, rfl, hsubject⟩
      obtain rfl := Option.some.inj hlast
      exact hsubject
  | .combined left combinator subject, place, h => by
    rw [Complex.holds, Bool.and_eq_true, List.any_eq_true, Compound.holds_iff distinct subject h]
    constructor
    · rintro ⟨hsubject, related, hrelated, hleft⟩
      have hrelates := (combinator.mem_related_iff distinct h).mp hrelated
      obtain ⟨places, hplaces, hlast, halong⟩ :=
        (Complex.holds_iff distinct left (hrelates.mem_tree h)).mp hleft
      -- The chain found for the left part ends at `related`; the place itself goes after it.
      obtain ⟨before, rfl⟩ := List.getLast?_eq_some_iff.mp hlast
      refine ⟨before ++ [related, place], ?_, by simp, before, related, place, rfl, halong,
        hrelates, hsubject⟩
      rw [List.append_cons, List.forall_mem_append]
      exact ⟨hplaces, List.forall_mem_singleton.mpr h⟩
    · rintro ⟨_, hplaces, hlast, before, related, other, rfl, halong, hrelates, hsubject⟩
      obtain rfl : other = place := by simpa using hlast
      rw [List.append_cons, List.forall_mem_append] at hplaces
      refine ⟨hsubject, related, (combinator.mem_related_iff distinct h).mpr hrelates, ?_⟩
      exact (Complex.holds_iff distinct left (hrelates.mem_tree h)).mpr
        ⟨before ++ [related], hplaces.1, by simp, halong⟩

theorem Compound.holds_iff (distinct : root.FieldsDistinct) : ∀ (compound : Compound)
    {place : Occurrence}, place ∈ root.occurrences [] →
    (compound.holds place = true ↔ compound.HoldsAt root place)
  | .mk kind attributes pseudos, place, h => by
    unfold Compound.holds Compound.HoldsAt
    rw [Bool.and_eq_true, Bool.and_eq_true, List.all_eq_true,
      allPseudosHold_iff distinct pseudos h, and_assoc]
    refine and_congr_left fun _ => ?_
    cases kind with
    | none => simp
    | some wanted => simp

theorem Pseudo.holds_iff (distinct : root.FieldsDistinct) : ∀ (pseudo : Pseudo)
    {place : Occurrence}, place ∈ root.occurrences [] →
    (pseudo.holds place = true ↔ pseudo.HoldsAt root place)
  | .not list, place, h => by
    rw [Pseudo.holds, Pseudo.HoldsAt, Bool.not_eq_true', ← Bool.not_eq_true,
      someComplexHolds_iff distinct list h]
  | .is list, place, h => by
    rw [Pseudo.holds, Pseudo.HoldsAt, someComplexHolds_iff distinct list h]
  | .has list, place, h => by
    rw [Pseudo.holds, Pseudo.HoldsAt, List.any_eq_true]
    refine exists_congr fun below => ?_
    -- The matcher looks among the nodes below, the meaning in the whole tree.
    rw [Occurrence.mem_descendants_iff]
    constructor
    · rintro ⟨hbelow, hlist⟩
      have htree := Occurrence.mem_tree_of_isAncestor h hbelow
      exact ⟨htree, hbelow, (someComplexHolds_iff distinct list htree).mp hlist⟩
    · rintro ⟨htree, hbelow, hlist⟩
      exact ⟨hbelow, (someComplexHolds_iff distinct list htree).mpr hlist⟩
  | .firstChild, place, h => by
    rw [Pseudo.holds, Pseudo.HoldsAt]
    exact Occurrence.hasPosition_iff distinct h fun _ _ _ => beq_iff_eq
  | .lastChild, place, h => by
    rw [Pseudo.holds, Pseudo.HoldsAt]
    exact Occurrence.hasPosition_iff distinct h fun _ _ _ => beq_iff_eq
  | .nthChild position, place, h => by
    rw [Pseudo.holds, Pseudo.HoldsAt]
    exact Occurrence.hasPosition_iff distinct h fun _ _ _ => beq_iff_eq
  | .nthLastChild position, place, h => by
    rw [Pseudo.holds, Pseudo.HoldsAt]
    refine Occurrence.hasPosition_iff distinct h fun index length hlt => ?_
    rw [beq_iff_eq]
    omega
  | .statement, place, _ => by rw [Pseudo.holds, Pseudo.HoldsAt]
  | .expression, place, _ => by rw [Pseudo.holds, Pseudo.HoldsAt]

theorem allPseudosHold_iff (distinct : root.FieldsDistinct) : ∀ (pseudos : List Pseudo)
    {place : Occurrence}, place ∈ root.occurrences [] →
    (allPseudosHold pseudos place = true ↔ PseudosHoldAt root pseudos place)
  | [], place, _ => by simp [allPseudosHold, PseudosHoldAt]
  | pseudo :: rest, place, h => by
    rw [allPseudosHold, PseudosHoldAt, Bool.and_eq_true, Pseudo.holds_iff distinct pseudo h,
      allPseudosHold_iff distinct rest h]

theorem someComplexHolds_iff (distinct : root.FieldsDistinct) : ∀ (list : List Complex)
    {place : Occurrence}, place ∈ root.occurrences [] →
    (someComplexHolds list place = true ↔ SomeHoldsAt root list place)
  | [], place, _ => by simp [someComplexHolds, SomeHoldsAt]
  | complex :: rest, place, h => by
    rw [someComplexHolds, SomeHoldsAt, Bool.or_eq_true, Complex.holds_iff distinct complex h,
      someComplexHolds_iff distinct rest h]

end

/-- **Matching is what selectors mean.**  In a tree whose nodes have fields of distinct names, a
selector list matches at a place exactly if it holds there.  The meaning of its compounds is as they
read: kind, attributes and pseudo-classes are all as asked, `:not` and `:matches` are the negation
and the truth of a list at the same place, and `:has` is the truth of a list at some place below. -/
theorem SelectorList.holds_iff_holdsAt (distinct : root.FieldsDistinct)
    (h : place ∈ root.occurrences []) (list : SelectorList) :
    (SelectorList.holds list place = true ↔ SelectorList.HoldsAt root list place) ∧
    (∀ kind attributes pseudos spot, (Compound.mk kind attributes pseudos).HoldsAt root spot ↔
      (∀ wanted, kind = some wanted → Kind.satisfies wanted spot.node.kind = true) ∧
      (∀ requirement ∈ attributes, requirement.holds spot.node = true) ∧
      ∀ pseudo ∈ pseudos, pseudo.HoldsAt root spot) ∧
    (∀ inner spot, (Pseudo.not inner).HoldsAt root spot ↔ ¬ SelectorList.HoldsAt root inner spot) ∧
    (∀ inner spot, (Pseudo.is inner).HoldsAt root spot ↔ SelectorList.HoldsAt root inner spot) ∧
    ∀ inner spot, (Pseudo.has inner).HoldsAt root spot ↔
      ∃ below ∈ root.occurrences [], spot.IsAncestor below ∧
        SelectorList.HoldsAt root inner below := by
  refine ⟨?_, ?_, ?_, ?_, ?_⟩
  · rw [SelectorList.holds, someComplexHolds_iff distinct list h, someHoldsAt_iff]
  · intro kind attributes pseudos spot
    rw [Compound.HoldsAt, pseudosHoldAt_iff]
  · intro inner spot
    rw [Pseudo.HoldsAt, someHoldsAt_iff]
  · intro inner spot
    rw [Pseudo.HoldsAt, someHoldsAt_iff]
  · intro inner spot
    simp only [Pseudo.HoldsAt, someHoldsAt_iff]

end

/-- In the product with a call in a call, the inner call is an argument of a call in a product. -/
theorem SelectorList.holds_iff_holdsAt_inner_call :
    let root := (Tree.ofParseTree Sample.product Sample.productTree).root
    let ofKind := fun (kind : String) (pseudos : List Pseudo) => Compound.mk (some kind) [] pseudos
    let list : SelectorList := [.combined (.combined (.compound (ofKind "BinaryExpression" []))
      .descendant (ofKind "Arguments" [])) .child (ofKind "CallExpression" [.firstChild])]
    root.FieldsDistinct ∧ ∃ place ∈ root.occurrences [],
      place.node.sourceText? = some "f(b)".toList ∧ SelectorList.HoldsAt root list place := by
  intro root ofKind list
  have distinct : root.FieldsDistinct := by
    unfold Node.FieldsDistinct
    decide +kernel
  have hfound : (root.occurrences []).any (fun place =>
      place.node.sourceText? == some "f(b)".toList && SelectorList.holds list place) = true := by
    decide +kernel
  obtain ⟨place, hplace, hfound⟩ := List.any_eq_true.mp hfound
  obtain ⟨htext, hholds⟩ := (Bool.and_eq_true _ _).mp hfound
  refine ⟨distinct, place, hplace, beq_iff_eq.mp htext, ?_⟩
  exact (SelectorList.holds_iff_holdsAt distinct hplace list).1.mp hholds

end SyntaxGraft
