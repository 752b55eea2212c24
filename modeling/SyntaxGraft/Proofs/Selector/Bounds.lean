import SyntaxGraft.Proofs.Selector.Rendering
import SyntaxGraft.Proofs.Selector.Semantics
import SyntaxGraft.Selector.Compile
/-!
# Matching stays in range

An alternative may be matched by number, from its last compound down: the compound at an index, the
combinator before it, the step of the path at a depth, the sibling at an index.  Each of these
numbers could be out of range.  `SelectorList.select?` matches in this way, gives up at the first
number out of range, and notes every place at which it tests a compound.

Two things keep it in range.  A list that was compiled has its shape at every level of nesting
(`SelectorList.InShape`); and the path of a place names the very fields through which the place is
reached (`Occurrence.ReachedFrom`), since names of fields are distinct.  So nothing is out of range,
and the outcome is that of the matcher (`Selector.evaluation_in_range`).

`Checked.Gives` says both of a step, what it gives and where it tests; it composes
(`Checked.Gives.bind`), and each function of the checked matcher has one lemma of this form.
-/

namespace SyntaxGraft

/-! ### The shape of compiled lists -/

namespace Pseudo

/-- The selector list in its parentheses, for `not`, `is` and `has`. -/
def list? : Pseudo → Option SelectorList
  | .not list | .is list | .has list => some list
  | _ => none

/-- The position it asks for, for `nthChild` and `nthLastChild`. -/
def position? : Pseudo → Option Nat
  | .nthChild position | .nthLastChild position => some position
  | _ => none

end Pseudo

namespace Compound

def attributes : Compound → List Attribute
  | .mk _ attributes _ => attributes

def pseudos : Compound → List Pseudo
  | .mk _ _ pseudos => pseudos

end Compound

namespace SelectorList

/-- The second list is the first, or stands in a pseudo-class somewhere inside of it. -/
inductive Nests (list : SelectorList) : SelectorList → Prop
  | self : Nests list list
  | inside {level inner : SelectorList} {complex : Complex} {compound : Compound} {pseudo : Pseudo}
      (h : Nests list level) (hcomplex : complex ∈ level) (hcompound : compound ∈ complex.compounds)
      (hpseudo : pseudo ∈ compound.pseudos) (hinner : pseudo.list? = some inner) : Nests list inner

/-- What matching by number (`select?`) relies on, at one level. -/
structure InShape (list : SelectorList) : Prop where
  ne_nil : list ≠ []
  lengths : ∀ complex ∈ list, complex.compounds.length = complex.combinators.length + 1
  paths : ∀ complex ∈ list, ∀ compound ∈ complex.compounds,
    ∀ requirement ∈ compound.attributes, requirement.path ≠ []
  positions : ∀ complex ∈ list, ∀ compound ∈ complex.compounds,
    ∀ pseudo ∈ compound.pseudos, ∀ position ∈ pseudo.position?, 1 ≤ position

end SelectorList

/-- The compounds (`Complex.compounds`) of a well-formed chain are well formed. -/
theorem Complex.WellFormed.compound_of_mem {complex : Complex} (h : complex.WellFormed) :
    ∀ compound ∈ complex.compounds, compound.WellFormed := by
  cases h with
  | compound h => exact List.forall_mem_singleton.mpr h
  | combined hleft h =>
    rw [Complex.compounds, List.forall_mem_append]
    exact ⟨hleft.compound_of_mem, List.forall_mem_singleton.mpr h⟩

theorem Compound.WellFormed.attribute_of_mem {compound : Compound} (h : compound.WellFormed) :
    ∀ requirement ∈ compound.attributes, requirement.WellFormed := by
  cases h with
  | mk hkind hattributes hpseudos => exact hattributes

theorem Compound.WellFormed.pseudo_of_mem {compound : Compound} (h : compound.WellFormed) :
    ∀ pseudo ∈ compound.pseudos, pseudo.WellFormed := by
  cases h with
  | mk hkind hattributes hpseudos => exact hpseudos

/-- A well-formed pseudo-class asks for a position from one on, or for a list that is well formed.
-/
theorem Pseudo.WellFormed.inside {pseudo : Pseudo} (h : pseudo.WellFormed) :
    (∀ position ∈ pseudo.position?, 1 ≤ position) ∧ ∀ list ∈ pseudo.list?, list.WellFormed := by
  cases h with
  | plain h =>
    simp only [SelectorGrammar.plainPseudos, List.mem_cons, Prod.mk.injEq, List.not_mem_nil,
      or_false] at h
    rcases h with ⟨-, rfl⟩ | ⟨-, rfl⟩ | ⟨-, rfl⟩ | ⟨-, rfl⟩ <;> simp [position?, list?]
  | indexed h hlow hhigh =>
    simp only [SelectorGrammar.indexedPseudos, List.mem_cons, Prod.mk.injEq, List.not_mem_nil,
      or_false] at h
    rcases h with ⟨-, rfl⟩ | ⟨-, rfl⟩ <;> simpa [position?, list?] using hlow
  | nesting h hne hlist =>
    simp only [SelectorGrammar.nestingPseudos, List.mem_cons, Prod.mk.injEq, List.not_mem_nil,
      or_false] at h
    rcases h with ⟨-, rfl⟩ | ⟨-, rfl⟩ | ⟨-, rfl⟩ | ⟨-, rfl⟩ <;>
      simpa [position?, list?] using ⟨hne, hlist⟩

namespace SelectorList

/-- `WellFormed` goes down to every level that `Nests` leads to. -/
theorem WellFormed.nests {list level : SelectorList} (h : list.WellFormed)
    (hnests : list.Nests level) : level.WellFormed := by
  induction hnests with
  | self => exact h
  | inside _ hcomplex hcompound hpseudo hinner ih =>
    have hcompound := (ih.2 _ hcomplex).compound_of_mem _ hcompound
    exact (hcompound.pseudo_of_mem _ hpseudo).inside.2 _ hinner

theorem WellFormed.inShape {list : SelectorList} (h : list.WellFormed) : list.InShape where
  ne_nil := h.1
  lengths complex _ := complex.length_compounds
  paths complex hcomplex compound hcompound requirement hrequirement :=
    (((h.2 complex hcomplex).compound_of_mem compound hcompound).attribute_of_mem requirement
      hrequirement).1
  positions complex hcomplex compound hcompound pseudo hpseudo :=
    (((h.2 complex hcomplex).compound_of_mem compound hcompound).pseudo_of_mem pseudo
      hpseudo).inside.1

/-- Without pseudo-classes `Nests` leads nowhere but to the list itself. -/
theorem Nests.eq_of_plain {list level : SelectorList}
    (hplain : ∀ complex ∈ list, ∀ compound ∈ complex.compounds, compound.pseudos = [])
    (h : list.Nests level) : level = list := by
  induction h with
  | self => rfl
  | inside _ hcomplex hcompound hpseudo _ ih =>
    subst ih
    rw [hplain _ hcomplex _ hcompound] at hpseudo
    cases hpseudo

end SelectorList

/-- What a text is compiled to is `InShape` at every level. -/
theorem Selector.inShape_of_compile {text : Text} {selector : Selector}
    (h : Selector.compile text = .ok selector) :
    ∀ list ∈ selector.list, ∀ level, SelectorList.Nests list level → level.InShape := by
  unfold Selector.compile at h
  split at h
  · cases h
    exact fun _ hlist => by cases hlist
  · split at h
    · -- The shorthand stands for one compound with nothing nested in it.
      unfold Shorthand.expand at h
      split at h
      · cases h
        rintro _ ⟨⟩ level hnests
        obtain rfl := hnests.eq_of_plain (by simp [Complex.compounds, Compound.pseudos])
        constructor <;> simp [Complex.compounds, Complex.combinators, Compound.attributes,
          Compound.pseudos]
      · cases h
    · cases h
    · unfold Except.map at h
      split at h
      · cases h
      · next list hread =>
        cases h
        have hlist : list.WellFormed :=
          wellFormed_of_spellsList (SelectorReader.readList_eq_ok_iff.mp hread)
        rintro _ ⟨⟩ level hnests
        exact (hlist.nests hnests).inShape

/-! ### Paths -/

/-- The step leads to the node: the field of its name is one that holds the node, alone or at the
index of the step. -/
def Step.LeadsTo (step : Step) (node : Node) : Prop :=
  match step.index with
  | none =>
    Field.mk step.field (.node node) ∈ step.parent.fields ∧
      step.parent.get? step.field = some (.node node)
  | some index =>
    ∃ siblings, Field.mk step.field (.nodes siblings) ∈ step.parent.fields ∧
      step.parent.get? step.field = some (.nodes siblings) ∧
        ∃ h : index < siblings.length, siblings[index] = node

/-- Every step of the path leads (`Step.LeadsTo`) to where the one below it starts, and the first
starts at the root. -/
inductive Occurrence.ReachedFrom (root : Node) : Occurrence → Prop
  | root : ReachedFrom root ⟨root, []⟩
  | step {node : Node} {step : Step} {rest : Path} (above : ReachedFrom root ⟨step.parent, rest⟩)
      (leads : step.LeadsTo node) : ReachedFrom root ⟨node, step :: rest⟩

/-- Where names are distinct, every place of a tree is reached by its path (`ReachedFrom`). -/
theorem Occurrence.reachedFrom_of_mem {root : Node} (distinct : root.FieldsDistinct)
    {place : Occurrence} (h : place ∈ root.occurrences []) : place.ReachedFrom root := by
  -- Down the tree, along the relation of parents: a path is built from the root on.
  have hpath := mem_tree_iff.mp h
  clear h
  induction hpath with
  | refl => exact .root
  | @tail parent place hpath hstep ih =>
    have hnames := distinct parent.node (List.mem_map_of_mem (mem_tree_iff.mpr hpath))
    obtain ⟨node, path⟩ := place
    rcases isParent_iff.mp hstep with ⟨name, hfield, hplace⟩ | ⟨name, siblings, index, helement⟩
    · obtain rfl : path = _ := hplace
      exact .step ih ⟨hfield, Fields.get?_of_mem hnames hfield⟩
    · obtain ⟨hfield, hnode, hplace⟩ := helement
      obtain rfl : path = _ := hplace
      exact .step ih ⟨siblings, hfield, Fields.get?_of_mem hnames hfield,
        List.getElem?_eq_some_iff.mp hnode⟩

/-! ### Matching by number -/

/-- A step of matching that may go out of range.  It gives nothing if it does, and else a value and
the places tested so far. -/
abbrev Checked (α : Type) := StateT (List Occurrence) Option α

namespace Checked

/-- Notes a `place` that is tested. -/
def note (place : Occurrence) : Checked Unit :=
  modify (· ++ [place])

/-- The item at an `index`, which has to be in range. -/
def item {α : Type} (items : List α) (index : Nat) : Checked α :=
  StateT.lift items[index]?

/-- The difference of two numbers, which has to be one: `part` is at most `whole`. -/
def difference (whole part : Nat) : Checked Nat :=
  if part ≤ whole then pure (whole - part) else failure

/-- The places that pass a `test`, in order. -/
def filter (test : Occurrence → Checked Bool) : List Occurrence → Checked (List Occurrence)
  | [] => pure []
  | place :: rest => do
    let passes ← test place
    let others ← filter test rest
    return if passes then place :: others else others

end Checked

/-- Some place that stands to the given one as the combinator says passes a test.  Ancestors are
taken from the path by their depth and siblings from their sequence by their index. -/
def Combinator.anyRelated (combinator : Combinator) (place : Occurrence)
    (test : Occurrence → Checked Bool) : Checked Bool :=
  match combinator with
  | .child =>
    match place.path with
    | [] => return false
    | step :: rest => test ⟨step.parent, rest⟩
  | .descendant =>
    (List.range place.path.length).anyM fun depth => do
      let step ← Checked.item place.path depth
      test ⟨step.parent, place.path.drop (depth + 1)⟩
  | .sibling => anyBefore fun indices => indices
  | .adjacent => anyBefore fun indices => indices.take 1
where
  /-- Some of the earlier siblings, chosen by their indices, passes the test. -/
  anyBefore (choose : List Nat → List Nat) : Checked Bool :=
    match place.path with
    | [] => return false
    | step :: rest =>
      match step.index, step.parent.get? step.field with
      | some position, some (.nodes siblings) =>
        (choose (List.range position).reverse).anyM fun index => do
          let sibling ← Checked.item siblings index
          test ⟨sibling, { step with index := some index } :: rest⟩
      | _, _ => return false

/-- The chain up to an index matches with its compound of that index here. -/
def chainAt? (tests : List (Occurrence → Checked Bool)) (combinators : List Combinator) :
    Nat → Occurrence → Checked Bool
  | 0, place => do
    let test ← Checked.item tests 0
    test place
  | index + 1, place => do
    let test ← Checked.item tests (index + 1)
    if ← test place then
      let combinator ← Checked.item combinators index
      combinator.anyRelated place (chainAt? tests combinators index)
    else return false

mutual

/-- The tests of the compounds of a chain (`Complex.compounds`), in order. -/
def Complex.tests? : Complex → List (Occurrence → Checked Bool)
  | .compound subject => [subject.holds?]
  | .combined left _ subject => left.tests? ++ [subject.holds?]

/-- Every test of the compound holds here. -/
def Compound.holds? : Compound → Occurrence → Checked Bool
  | .mk kind attributes pseudos, place => do
    Checked.note place
    if (Compound.mk kind attributes []).holds place then allPseudosHold? pseudos place
    else return false

/-- The pseudo-class holds here. -/
def Pseudo.holds? : Pseudo → Occurrence → Checked Bool
  | .not list, place => return !(← someComplexHolds? list place)
  | .is list, place => someComplexHolds? list place
  | .has list, place => place.descendants.anyM fun below => someComplexHolds? list below
  | .nthLastChild position, place =>
    match place.position? with
    | some (index, length) => return (← Checked.difference length index) == position
    | none => return false
  | pseudo, place => return pseudo.holds place

/-- Every pseudo-class of a list holds here. -/
def allPseudosHold? : List Pseudo → Occurrence → Checked Bool
  | [], _ => return true
  | pseudo :: rest, place => do
    if ← pseudo.holds? place then allPseudosHold? rest place else return false

/-- Some chain of a list matches here, from its last compound down. -/
def someComplexHolds? : List Complex → Occurrence → Checked Bool
  | [], _ => return false
  | complex :: rest, place => do
    if ← chainAt? complex.tests? complex.combinators (complex.tests?.length - 1) place then
      return true
    else someComplexHolds? rest place

end

/-- The places of a tree at which a list matches by number. -/
def SelectorList.select? (list : SelectorList) (root : Node) : Checked (List Occurrence) :=
  Checked.filter (someComplexHolds? list) (root.occurrences [])

/-! ### Nothing is out of range -/

namespace Checked

variable {α β : Type} {allowed : Occurrence → Prop}

/-- Whatever was tested before, the check stays in range, gives the value, and tests only places of
a certain kind. -/
def Gives (check : Checked α) (allowed : Occurrence → Prop) (value : α) : Prop :=
  ∀ before, ∃ tested, check.run before = some (value, before ++ tested) ∧
    ∀ place ∈ tested, allowed place

theorem gives_pure (value : α) : (pure value : Checked α).Gives allowed value := by
  intro before
  exact ⟨[], by rw [List.append_nil]; rfl, List.forall_mem_nil _⟩

theorem Gives.bind {check : Checked α} {next : α → Checked β} {value : α} {result : β}
    (hcheck : check.Gives allowed value) (hnext : (next value).Gives allowed result) :
    (check >>= next).Gives allowed result := by
  intro before
  obtain ⟨tested, hrun, htested⟩ := hcheck before
  obtain ⟨more, hrunMore, hmore⟩ := hnext (before ++ tested)
  refine ⟨tested ++ more, ?_, List.forall_mem_append.mpr ⟨htested, hmore⟩⟩
  rw [StateT.run_bind, hrun, ← List.append_assoc]
  exact hrunMore

theorem gives_note {place : Occurrence} (h : allowed place) : (note place).Gives allowed () := by
  intro before
  exact ⟨[place], rfl, List.forall_mem_singleton.mpr h⟩

theorem gives_item {items : List α} {index : Nat} {found : α} (h : items[index]? = some found) :
    (item items index).Gives allowed found := by
  intro before
  refine ⟨[], ?_, List.forall_mem_nil _⟩
  rw [item, h, List.append_nil]
  rfl

theorem gives_difference {whole part : Nat} (h : part ≤ whole) :
    (difference whole part).Gives allowed (whole - part) := by
  rw [difference, if_pos h]
  exact gives_pure _

/-- A choice between going on and stopping: only the branch that `value` chooses is run. -/
theorem Gives.ite {check : Checked Bool} {yes no : Checked α} {value : Bool} {result : α}
    (hcheck : check.Gives allowed value) (hyes : value = true → yes.Gives allowed result)
    (hno : value = false → no.Gives allowed result) :
    (do if ← check then yes else no).Gives allowed result := by
  refine hcheck.bind ?_
  cases value with
  | true => exact hyes rfl
  | false => exact hno rfl

theorem gives_anyM {items : List α} {test : α → Checked Bool} {passes : α → Bool}
    (h : ∀ item ∈ items, (test item).Gives allowed (passes item)) :
    (items.anyM test).Gives allowed (items.any passes) := by
  induction items with
  | nil => exact gives_pure _
  | cons item rest ih =>
    obtain ⟨hitem, hrest⟩ := List.forall_mem_cons.mp h
    rw [List.anyM, List.any_cons]
    refine hitem.bind ?_
    cases passes item with
    | true => exact gives_pure _
    | false => exact ih hrest

theorem gives_filter {places : List Occurrence} {test : Occurrence → Checked Bool}
    {passes : Occurrence → Bool} (h : ∀ place ∈ places, (test place).Gives allowed (passes place)) :
    (filter test places).Gives allowed (places.filter passes) := by
  induction places with
  | nil => exact gives_pure _
  | cons place rest ih =>
    obtain ⟨hplace, hrest⟩ := List.forall_mem_cons.mp h
    rw [filter, List.filter_cons]
    exact hplace.bind ((ih hrest).bind (gives_pure _))

/-- As `gives_anyM`, with numbers in the place of what they stand for: `R` says which stands for
which. -/
theorem gives_anyM_of_forall₂ {R : α → β → Prop} {indices : List α} {items : List β}
    {test : α → Checked Bool} {passes : β → Bool} (hindices : List.Forall₂ R indices items)
    (h : ∀ index, ∀ item ∈ items, R index item → (test index).Gives allowed (passes item)) :
    (indices.anyM test).Gives allowed (items.any passes) := by
  induction hindices with
  | nil => exact gives_pure _
  | @cons index item indices items hindex _ ih =>
    have hrest := ih fun index other hother => h index other (List.mem_cons_of_mem _ hother)
    rw [List.anyM, List.any_cons]
    refine (h index item List.mem_cons_self hindex).bind ?_
    cases passes item with
    | true => exact gives_pure _
    | false => exact hrest

end Checked

namespace Occurrence

/-- The ends of the steps of a path, by their depth: `endsOf` in numbers. -/
theorem forall₂_endsOf (path : Path) :
    List.Forall₂ (fun depth above => ∃ step, path[depth]? = some step ∧
        above = ⟨step.parent, path.drop (depth + 1)⟩)
      (List.range path.length) (endsOf path) := by
  induction path with
  | nil => exact .nil
  | cons step rest ih =>
    rw [List.length_cons, List.range_succ_eq_map, endsOf]
    refine .cons ⟨step, rfl, rfl⟩ ?_
    rw [List.forall₂_map_left_iff]
    exact ih

/-- The elements before an index, by their own indices: `elementsBefore` in numbers. -/
theorem forall₂_elementsBefore (step : Step) (rest : Path) {siblings : List Node} {bound : Nat}
    (h : bound ≤ siblings.length) :
    List.Forall₂ (fun index place => ∃ sibling, siblings[index]? = some sibling ∧
        place = ⟨sibling, { step with index := some index } :: rest⟩)
      (List.range bound).reverse (elementsBefore step rest siblings bound) := by
  induction bound with
  | zero => exact .nil
  | succ bound ih =>
    have hsibling := List.getElem?_eq_getElem h
    rw [List.range_succ, List.reverse_append, elementsBefore, hsibling]
    exact .cons ⟨_, hsibling, rfl⟩ (ih (Nat.le_of_succ_le h))

end Occurrence

section

variable {root : Node} {allowed : Occurrence → Prop}

namespace Combinator

variable {place : Occurrence} {test : Occurrence → Checked Bool} {passes : Occurrence → Bool}

/-- Sequences are read within their length.  Of the elements before a place, the same are chosen by
index as among the places. -/
theorem gives_anyBefore (distinct : root.FieldsDistinct) (hplace : place ∈ root.occurrences [])
    {choose : List Nat → List Nat} {among : List Occurrence → List Occurrence}
    (hnil : among [] = [])
    (hchoose : ∀ {R : Nat → Occurrence → Prop} {indices places}, List.Forall₂ R indices places →
      List.Forall₂ R (choose indices) (among places))
    (h : ∀ related ∈ among place.earlierSiblings, (test related).Gives allowed (passes related)) :
    (anyRelated.anyBefore place test choose).Gives allowed
      ((among place.earlierSiblings).any passes) := by
  -- Only an element of a sequence has siblings; the root and a node alone in a field have none.
  rcases Occurrence.eq_root_or_exists_parent hplace with rfl | ⟨parent, hparent, hstep⟩
  · rw [Occurrence.earlierSiblings, hnil]
    exact Checked.gives_pure _
  · rcases Occurrence.isParent_iff.mp hstep with ⟨name, -, hpath⟩ |
      ⟨name, siblings, position, helement⟩
    · rw [anyRelated.anyBefore, Occurrence.earlierSiblings, hpath, hnil]
      exact Checked.gives_pure _
    · rw [helement.earlierSiblings_eq distinct hparent] at h ⊢
      rw [anyRelated.anyBefore, helement.path]
      dsimp only
      rw [helement.get?_eq distinct hparent]
      refine Checked.gives_anyM_of_forall₂
        (hchoose (Occurrence.forall₂_elementsBefore _ _ helement.lt.le)) ?_
      rintro index related hrelated ⟨sibling, hsibling, rfl⟩
      exact (Checked.gives_item hsibling).bind (h _ hrelated)

/-- Whatever is `related` to a place of the tree is found within range. -/
theorem gives_anyRelated (distinct : root.FieldsDistinct) (hplace : place ∈ root.occurrences [])
    (combinator : Combinator)
    (h : ∀ related ∈ combinator.related place, (test related).Gives allowed (passes related)) :
    (combinator.anyRelated place test).Gives allowed
      ((combinator.related place).any passes) := by
  cases combinator with
  | child =>
    obtain ⟨node, path⟩ := place
    cases path with
    | nil => exact Checked.gives_pure _
    | cons step rest =>
      rw [related, Occurrence.parent?, Option.toList_some, List.any_cons, List.any_nil,
        Bool.or_false]
      exact h _ List.mem_cons_self
  | descendant =>
    refine Checked.gives_anyM_of_forall₂ (Occurrence.forall₂_endsOf place.path) ?_
    rintro depth above habove ⟨step, hstep, rfl⟩
    exact (Checked.gives_item hstep).bind (h _ habove)
  | sibling => exact gives_anyBefore distinct hplace rfl (fun hforall => hforall) h
  | adjacent =>
    exact gives_anyBefore distinct hplace List.take_nil (fun hforall => List.forall₂_take 1 hforall)
      h

end Combinator

/-- Each test gives, at every place of the tree, what its compound says. -/
def TestsGive (root : Node) : List Compound → List (Occurrence → Checked Bool) → Prop :=
  List.Forall₂ fun compound test => ∀ place ∈ root.occurrences [],
    (test place).Gives (· ∈ root.occurrences []) (compound.holds place)

/-- A chain is matched within range, also as the first part of a longer one.  By recursion on the
chain, whose left part is matched with the tests and combinators of the whole. -/
theorem gives_chainAt? (distinct : root.FieldsDistinct) : ∀ (complex : Complex)
    {tests : List (Occurrence → Checked Bool)}, TestsGive root complex.compounds tests →
    ∀ (moreTests : List (Occurrence → Checked Bool)) (moreCombinators : List Combinator)
      {place : Occurrence}, place ∈ root.occurrences [] →
    (chainAt? (tests ++ moreTests) (complex.combinators ++ moreCombinators)
      complex.combinators.length place).Gives (· ∈ root.occurrences []) (complex.holds place)
  | .compound subject, tests, htests, moreTests, moreCombinators, place, hplace => by
    obtain ⟨test, rest, hsubject, hrest, rfl⟩ := List.forall₂_cons_left_iff.mp htests
    rw [Complex.holds]
    exact (Checked.gives_item rfl).bind (hsubject place hplace)
  | .combined left combinator subject, tests, htests, moreTests, moreCombinators, place,
      hplace => by
    obtain ⟨front, test, rfl, hleft, hsubject⟩ := forall₂_concat_left_iff.mp htests
    have hlength : front.length = left.combinators.length + 1 := by
      rw [← hleft.length_eq, left.length_compounds]
    have htest : (front ++ [test] ++ moreTests)[left.combinators.length + 1]? = some test := by
      simp [← hlength]
    have hcombinator : (left.combinators ++ [combinator] ++ moreCombinators)[
        left.combinators.length]? = some combinator := by
      simp
    have hrelated : ∀ related ∈ combinator.related place,
        (chainAt? (front ++ [test] ++ moreTests)
          (left.combinators ++ [combinator] ++ moreCombinators) left.combinators.length
          related).Gives (· ∈ root.occurrences []) (left.holds related) := by
      intro related hrelated
      have hmem := ((combinator.mem_related_iff distinct hplace).mp hrelated).mem_tree hplace
      rw [List.append_assoc, List.append_assoc]
      exact gives_chainAt? distinct left hleft _ _ hmem
    -- The subject is tested first; only then are the combinator and the places beyond it read.
    rw [Complex.holds, Complex.combinators, List.length_append, List.length_singleton, chainAt?]
    refine (Checked.gives_item htest).bind ((hsubject place hplace).ite ?_ ?_)
    · intro hholds
      rw [hholds, Bool.true_and]
      exact (Checked.gives_item hcombinator).bind
        (combinator.gives_anyRelated distinct hplace hrelated)
    · intro hholds
      rw [hholds, Bool.false_and]
      exact Checked.gives_pure _

mutual

theorem Complex.testsGive (distinct : root.FieldsDistinct) : ∀ complex : Complex,
    TestsGive root complex.compounds complex.tests?
  | .compound subject => by
    rw [Complex.compounds, Complex.tests?]
    exact .cons (fun place hplace => Compound.gives_holds? distinct subject hplace) .nil
  | .combined left combinator subject => by
    rw [Complex.compounds, Complex.tests?]
    exact forall₂_concat_left_iff.mpr ⟨_, _, rfl, Complex.testsGive distinct left,
      fun place hplace => Compound.gives_holds? distinct subject hplace⟩

theorem Compound.gives_holds? (distinct : root.FieldsDistinct) : ∀ (compound : Compound)
    {place : Occurrence}, place ∈ root.occurrences [] →
    (compound.holds? place).Gives (· ∈ root.occurrences []) (compound.holds place)
  | .mk kind attributes pseudos, place, hplace => by
    rw [Compound.holds?]
    refine (Checked.gives_note hplace).bind ?_
    have hsplit : (Compound.mk kind attributes pseudos).holds place
        = ((Compound.mk kind attributes []).holds place && allPseudosHold pseudos place) := by
      simp only [Compound.holds, allPseudosHold, Bool.and_true]
    rw [hsplit]
    cases (Compound.mk kind attributes []).holds place with
    | true => exact allPseudosHold?_gives distinct pseudos hplace
    | false => exact Checked.gives_pure _

theorem Pseudo.gives_holds? (distinct : root.FieldsDistinct) : ∀ (pseudo : Pseudo)
    {place : Occurrence}, place ∈ root.occurrences [] →
    (pseudo.holds? place).Gives (· ∈ root.occurrences []) (pseudo.holds place)
  | .not list, place, hplace => by
    rw [Pseudo.holds?, Pseudo.holds]
    exact (someComplexHolds?_gives distinct list hplace).bind (Checked.gives_pure _)
  | .is list, place, hplace => by
    rw [Pseudo.holds?, Pseudo.holds]
    exact someComplexHolds?_gives distinct list hplace
  | .has list, place, hplace => by
    rw [Pseudo.holds?, Pseudo.holds]
    refine Checked.gives_anyM fun below hbelow => someComplexHolds?_gives distinct list ?_
    exact Occurrence.mem_tree_of_isAncestor hplace (Occurrence.mem_descendants_iff.mp hbelow)
  | .nthLastChild position, place, hplace => by
    rw [Pseudo.holds?, Pseudo.holds, Occurrence.hasPosition]
    cases hposition : place.position? with
    | none => exact Checked.gives_pure _
    | some found =>
      obtain ⟨index, length⟩ := found
      obtain ⟨parent, name, siblings, rfl, helement⟩ :=
        (Occurrence.position?_eq_some_iff distinct hplace).mp hposition
      exact (Checked.gives_difference helement.lt.le).bind (Checked.gives_pure _)
  | .firstChild, _, _ => Checked.gives_pure _
  | .lastChild, _, _ => Checked.gives_pure _
  | .nthChild position, _, _ => Checked.gives_pure _
  | .statement, _, _ => Checked.gives_pure _
  | .expression, _, _ => Checked.gives_pure _

theorem allPseudosHold?_gives (distinct : root.FieldsDistinct) : ∀ (pseudos : List Pseudo)
    {place : Occurrence}, place ∈ root.occurrences [] →
    (allPseudosHold? pseudos place).Gives (· ∈ root.occurrences []) (allPseudosHold pseudos place)
  | [], place, _ => by
    rw [allPseudosHold?, allPseudosHold]
    exact Checked.gives_pure _
  | pseudo :: rest, place, hplace => by
    rw [allPseudosHold?, allPseudosHold]
    refine (Pseudo.gives_holds? distinct pseudo hplace).ite ?_ ?_
    · intro hholds
      rw [hholds, Bool.true_and]
      exact allPseudosHold?_gives distinct rest hplace
    · intro hholds
      rw [hholds, Bool.false_and]
      exact Checked.gives_pure _

theorem someComplexHolds?_gives (distinct : root.FieldsDistinct) : ∀ (list : List Complex)
    {place : Occurrence}, place ∈ root.occurrences [] →
    (someComplexHolds? list place).Gives (· ∈ root.occurrences []) (someComplexHolds list place)
  | [], place, _ => by
    rw [someComplexHolds?, someComplexHolds]
    exact Checked.gives_pure _
  | complex :: rest, place, hplace => by
    have htests := Complex.testsGive distinct complex
    have hchain := gives_chainAt? distinct complex htests [] [] hplace
    -- The index of the last compound is the number of combinators, so `chainAt?` starts in range.
    have hlast : complex.tests?.length - 1 = complex.combinators.length := by
      rw [← htests.length_eq, complex.length_compounds, Nat.add_sub_cancel]
    rw [List.append_nil, List.append_nil] at hchain
    rw [someComplexHolds?, someComplexHolds, hlast]
    refine hchain.ite ?_ ?_
    · intro hholds
      rw [hholds, Bool.true_or]
      exact Checked.gives_pure _
    · intro hholds
      rw [hholds, Bool.false_or]
      exact someComplexHolds?_gives distinct rest hplace

end

/-- **Nothing is out of range** in a tree whose nodes have fields of distinct names, and matching by
number finds what matching finds. -/
theorem SelectorList.gives_select? (distinct : root.FieldsDistinct) (list : SelectorList) :
    (SelectorList.select? list root).Gives (· ∈ root.occurrences [])
      (SelectorList.select list root) :=
  Checked.gives_filter fun _ hplace => someComplexHolds?_gives distinct list hplace

end

/-! ### Positions -/

/-- The pseudo-class asks for the place in a sequence (`Occurrence.position?`). -/
def Pseudo.isPositional : Pseudo → Bool
  | .firstChild | .lastChild | .nthChild _ | .nthLastChild _ => true
  | _ => false

namespace Occurrence

variable {root : Node} {place parent : Occurrence}

/-- Elements of sequences are counted from one, by `nthChild` and `nthLastChild` from either end. -/
theorem IsElement.holds_position (distinct : root.FieldsDistinct)
    (hplace : place ∈ root.occurrences []) {name : String} {siblings : List Node} {index : Nat}
    (h : parent.IsElement name siblings index place) (position : Nat) :
    ((Pseudo.nthChild position).holds place = true ↔ position = index + 1) ∧
      ((Pseudo.nthLastChild position).holds place = true ↔
        position = siblings.length - index) := by
  have hposition : place.position? = some (index, siblings.length) :=
    (position?_eq_some_iff distinct hplace).mpr ⟨parent, name, siblings, rfl, h⟩
  rw [Pseudo.holds, Pseudo.holds, hasPosition, hasPosition, hposition]
  simp only [beq_iff_eq]
  exact ⟨eq_comm, eq_comm⟩

/-- A node that fills a field alone, with `none` for an index, has no position and no siblings. -/
theorem not_holds_of_single {step : Step} {rest : Path} (hpath : place.path = step :: rest)
    (hindex : step.index = none) :
    (∀ pseudo : Pseudo, pseudo.isPositional = true → pseudo.holds place = false) ∧
      ∀ left combinator subject, combinator = .sibling ∨ combinator = .adjacent →
        (Complex.combined left combinator subject).holds place = false := by
  have hposition : place.position? = none := by
    rw [position?, hpath]
    simp [hindex]
  have hsiblings : place.earlierSiblings = [] := by
    rw [earlierSiblings, hpath]
    simp [hindex]
  have hnowhere : ∀ wanted, place.hasPosition wanted = false := by
    intro wanted
    rw [hasPosition, hposition]
  constructor
  · intro pseudo hpositional
    cases pseudo with
    | firstChild => rw [Pseudo.holds, hnowhere]
    | lastChild => rw [Pseudo.holds, hnowhere]
    | nthChild position => rw [Pseudo.holds, hnowhere]
    | nthLastChild position => rw [Pseudo.holds, hnowhere]
    | not list => cases hpositional
    | is list => cases hpositional
    | has list => cases hpositional
    | statement => cases hpositional
    | expression => cases hpositional
  · rintro left _ subject (rfl | rfl)
    · rw [Complex.holds, Combinator.related, hsiblings, List.any_nil, Bool.and_false]
    · rw [Complex.holds, Combinator.related, hsiblings, List.take_nil, List.any_nil,
        Bool.and_false]

end Occurrence

/-- **Evaluation stays in range.**  A compiled text is in shape at every level of nesting.  In a
tree whose nodes have fields of distinct names it is then matched by number with every number in
range, to the same result as by the matcher; and every place at which a compound is tested is
reached by its path, which names the very fields and indices on the way.  Elements of sequences are
counted from one, from either end, and a node that fills a field alone has neither position nor
siblings. -/
theorem Selector.evaluation_in_range {text : Text} {selector : Selector}
    (hcompile : Selector.compile text = .ok selector) :
    (∀ list ∈ selector.list, ∀ level, SelectorList.Nests list level → level.InShape) ∧
    ∀ root : Node, root.FieldsDistinct →
      (∀ list ∈ selector.list, ∃ tested,
        (SelectorList.select? list root).run [] = some (SelectorList.select list root, tested) ∧
          ∀ place ∈ tested, place.ReachedFrom root) ∧
      ∀ place ∈ root.occurrences [],
        (∀ parent name siblings index, Occurrence.IsElement parent name siblings index place →
          ∀ position, ((Pseudo.nthChild position).holds place = true ↔ position = index + 1) ∧
            ((Pseudo.nthLastChild position).holds place = true ↔
              position = siblings.length - index)) ∧
        ∀ step rest, place.path = step :: rest → step.index = none →
          (∀ pseudo : Pseudo, pseudo.isPositional = true → pseudo.holds place = false) ∧
            ∀ left combinator subject, combinator = .sibling ∨ combinator = .adjacent →
              (Complex.combined left combinator subject).holds place = false := by
  refine ⟨Selector.inShape_of_compile hcompile, ?_⟩
  intro root distinct
  constructor
  · intro list _
    obtain ⟨tested, hrun, htested⟩ := SelectorList.gives_select? distinct list []
    exact ⟨tested, hrun, fun place hplace =>
      Occurrence.reachedFrom_of_mem distinct (htested place hplace)⟩
  · intro place hplace
    exact ⟨fun parent name siblings index helement position =>
        helement.holds_position distinct hplace position,
      fun step rest hpath hindex => Occurrence.not_holds_of_single hpath hindex⟩

/-- The first of the arguments that are calls: matched by number from the call up to the product. -/
theorem Selector.evaluation_in_range_inner_call :
    let text := "BinaryExpression Arguments > CallExpression:nth-last-child(1)".toList
    let ofKind := fun (kind : String) (pseudos : List Pseudo) => Compound.mk (some kind) [] pseudos
    let list : SelectorList := [.combined (.combined (.compound (ofKind "BinaryExpression" []))
      .descendant (ofKind "Arguments" [])) .child (ofKind "CallExpression" [.nthLastChild 1])]
    let root := (Tree.ofParseTree Sample.product Sample.productTree).root
    Selector.compile text = .ok ⟨text, some list⟩ ∧ root.FieldsDistinct ∧
      ∃ tested,
        (SelectorList.select? list root).run [] = some (SelectorList.select list root, tested)
        ∧ ∀ place ∈ tested, place.ReachedFrom root := by
  intro text ofKind list root
  have hcompile : Selector.compile text = .ok ⟨text, some list⟩ := by
    rfl
  have distinct : root.FieldsDistinct := by
    unfold Node.FieldsDistinct
    decide +kernel
  exact ⟨hcompile, distinct,
    ((Selector.evaluation_in_range hcompile).2 root distinct).1 list rfl⟩

end SyntaxGraft
