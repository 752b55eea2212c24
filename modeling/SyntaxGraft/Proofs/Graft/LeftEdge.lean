import SyntaxGraft.Proofs.Graft.Operands
import SyntaxGraft.Proofs.Parse.Numbering
/-!
# Calls after `new`

After `new`, the arguments of a call at the beginning of what is put in are taken for those of
`new`.  Whether a copy gets parentheses is decided by its outermost node
(`Slot.needsParens_constructor_iff`).  A call by itself gets them; an access like `f().g` does not,
whatever stands further down its left edge.  So a copy meets a call there exactly if the
representative is an access to what begins with one (`Tree.meetsCall_of_constructor_iff`).

`Node.MeetsCall` follows the left edge down; it sees only kinds and fields, and is therefore the
same for copies (`Node.MeetsCall.copy`).
-/

namespace SyntaxGraft

/-! ### Calls at the beginning -/

namespace Node

/-- The node that the text of a call or of an access begins with. -/
def spineNext? (node : Node) : Option Node :=
  match node.kind with
  | "CallExpression" => (node.get? "function").bind Value.node?
  | "MemberExpression" | "SubscriptExpression" => (node.get? "object").bind Value.node?
  | _ => none

/-- The node is a call, or there is one on the way along the beginnings of calls and accesses. -/
inductive MeetsCall : Node → Prop
  | call {node : Node} (h : node.kind = "CallExpression") : MeetsCall node
  | onward {node next : Node} (hnext : node.spineNext? = some next) (h : MeetsCall next) :
      MeetsCall node

/-- The node is an access to what begins with a call. -/
def AccessesCall (node : Node) : Prop :=
  (node.kind = "MemberExpression" ∨ node.kind = "SubscriptExpression") ∧
    ∃ object, node.get? "object" = some (.node object) ∧ object.MeetsCall

/-- Copies begin with copies: `spineNext?` commutes with forgetting the identities below. -/
theorem map_unnumbered_spineNext? {node other : Node} (hkind : node.kind = other.kind)
    (hfields : node.fields.map Field.unnumbered = other.fields.map Field.unnumbered) :
    node.spineNext?.map unnumbered = other.spineNext?.map unnumbered := by
  -- A field holds copies in both nodes, since forgetting identities keeps the names of fields.
  have hchild : ∀ name, ((node.get? name).bind Value.node?).map unnumbered
      = ((other.get? name).bind Value.node?).map unnumbered := by
    intro name
    have hforget : ∀ node : Node, ((node.get? name).bind Value.node?).map unnumbered
        = (node.unnumbered.get? name).bind Value.node? := by
      intro node
      rw [get?_unnumbered]
      cases node.get? name with
      | none => rfl
      | some value => cases value <;> rfl
    rw [hforget, hforget, get?, get?, fields_unnumbered, fields_unnumbered, hfields]
  unfold spineNext?
  rw [hkind]
  split
  · exact hchild "function"
  · exact hchild "object"
  · exact hchild "object"
  · rfl

/-- `MeetsCall` is the same for copies.  Nothing is asked of the identities and places of the two
nodes themselves, for a copy is put in with those of its target. -/
theorem MeetsCall.copy {node other : Node} (h : node.MeetsCall) (hkind : node.kind = other.kind)
    (hfields : node.fields.map Field.unnumbered = other.fields.map Field.unnumbered) :
    other.MeetsCall := by
  induction h generalizing other with
  | call hcall => exact .call (hkind.symm.trans hcall)
  | onward hnext _ ih =>
    have hsame := map_unnumbered_spineNext? hkind hfields
    rw [hnext] at hsame
    obtain ⟨twin, htwin, hcopy⟩ := Option.map_eq_some_iff.mp hsame.symm
    obtain ⟨hkind, hfields⟩ := kind_and_fields_of_unnumbered_eq hcopy.symm
    exact .onward htwin (ih hkind hfields)

/-- `MeetsCall` holds of a call, and of an access that begins with one. -/
theorem meetsCall_iff {node : Node} :
    node.MeetsCall ↔ node.kind = "CallExpression" ∨ node.AccessesCall := by
  have hobject : ∀ next, (node.get? "object").bind Value.node? = some next ↔
      node.get? "object" = some (.node next) := by
    intro next
    cases node.get? "object" with
    | none => simp
    | some value => cases value <;> simp [Value.node?]
  constructor
  · intro h
    cases h with
    | call h => exact Or.inl h
    | onward hnext h =>
      -- Only calls and accesses have a next node, and a call is met by itself.
      unfold spineNext? at hnext
      split at hnext
      next hkind => exact Or.inl hkind
      next hkind => exact Or.inr ⟨Or.inl hkind, _, (hobject _).mp hnext, h⟩
      next hkind => exact Or.inr ⟨Or.inr hkind, _, (hobject _).mp hnext, h⟩
      next => cases hnext
  · rintro (h | ⟨hkind, object, hget, h⟩)
    · exact .call h
    · refine .onward ?_ h
      unfold spineNext?
      rcases hkind with hkind | hkind <;> rw [hkind] <;> exact (hobject object).mpr hget

/-- Parentheses hide what is in them: `spineNext?` leads nowhere from them. -/
theorem not_meetsCall_parenthesized (id : Nat) (node : Node) (range : Option ByteRange) :
    ¬ ((parenthesized id node).withAnchor range).MeetsCall := by
  intro h
  cases h with
  | call h => exact absurd (show "ParenthesizedExpression" = "CallExpression" from h) (by decide)
  | onward hnext => cases hnext

end Node

namespace Slot

/-- After `new`, what binds more loosely than an access needs parentheses, and so does a call. -/
theorem needsParens_constructor_iff {slot : Slot} (hparent : slot.parent = "NewExpression")
    (hfield : slot.field = "constructor") (node : Node) :
    slot.needsParens node = true ↔ node.level < Level.member ∨ node.kind = "CallExpression" := by
  obtain ⟨parent, field, operator⟩ := slot
  obtain rfl : parent = _ := hparent
  obtain rfl : field = _ := hfield
  have hminimum : minimum ⟨"NewExpression", "constructor", operator⟩ = Level.member := rfl
  unfold needsParens
  rw [hminimum]
  by_cases hlevel : node.level < Level.member
  · simp [hlevel]
  · simp [hlevel]

/-- After `new` nothing stands among statements. -/
theorem wrapping_constructor_eq {slot : Slot} (hparent : slot.parent = "NewExpression")
    (hfield : slot.field = "constructor") (node : Node) :
    slot.wrapping node = if slot.needsParens node then .parentheses else .bare := by
  obtain ⟨parent, field, operator⟩ := slot
  obtain rfl : parent = _ := hparent
  obtain rfl : field = _ := hfield
  rfl

end Slot

/-- An access binds as tightly as it takes after `new`, and is no call. -/
theorem Node.AccessesCall.level_eq {node : Node} (h : node.AccessesCall) :
    node.level = Level.member ∧ node.kind ≠ "CallExpression" := by
  obtain ⟨hkind, -⟩ := h
  unfold level
  rcases hkind with hkind | hkind <;> rw [hkind] <;> exact ⟨rfl, by decide⟩

/-- **A call gets into the place after `new` at the beginning of an access, and only there.**  What
a pass puts there has parentheses exactly if the representative binds more loosely than an access or
is a call. -/
theorem Tree.meetsCall_of_constructor_iff (tree : Tree) (selector : Selector) (fragment : Fragment)
    {position : List Nat} {target : Occurrence}
    (htarget : Occurrence.at? ⟨tree.root, []⟩ position = some target)
    (htop : target.isTopmost (selector.marks tree) = true)
    (hparent : target.slot.parent = "NewExpression")
    (hfield : target.slot.field = "constructor") :
    let next := (tree.graft selector fragment).tree
    let representative := fragment.representative
    ∃ copy, Occurrence.at? ⟨next.root, []⟩ position = some copy ∧
      Graft.Inserted representative target.node target.slot tree.nextId next.nextId copy.node ∧
      target.slot.wrapping representative =
        (if representative.level < Level.member ∨ representative.kind = "CallExpression"
          then .parentheses else .bare) ∧
      (copy.node.MeetsCall ↔ representative.AccessesCall) := by
  intro next representative
  obtain ⟨copy, hcopy, hinserted, -⟩ :=
    (tree.substituted_graft selector fragment).replaced position target htarget htop
  have hneeds := Slot.needsParens_constructor_iff hparent hfield representative
  have hwrapping := Slot.wrapping_constructor_eq hparent hfield representative
  refine ⟨copy, hcopy, hinserted, ?_, ?_⟩
  · rw [hwrapping]
    simp only [hneeds]
  · obtain ⟨first, inner, -, -, hinner, -, hnode⟩ := hinserted
    obtain ⟨hkind, hfields⟩ := Node.kind_and_fields_of_unnumbered_eq hinner
    cases hparens : target.slot.needsParens representative with
    | true =>
      -- In parentheses no call is met, and an access would not have got them.
      rw [hparens, if_pos rfl] at hwrapping
      rw [hwrapping] at hnode
      rw [hnode]
      refine iff_of_false (Node.not_meetsCall_parenthesized _ _ _) ?_
      intro haccess
      obtain ⟨hlevel, hcall⟩ := haccess.level_eq
      rcases hneeds.mp hparens with hloose | hkind
      · rw [hlevel] at hloose
        exact Nat.lt_irrefl _ hloose
      · exact hcall hkind
    | false =>
      rw [hparens, if_neg Bool.false_ne_true] at hwrapping
      rw [hwrapping] at hnode
      rw [hnode]
      -- Bare, it is the representative but for identities and its place.
      have hsame : ((Wrapping.bare.around (first + representative.size) inner).withAnchor
          target.node.anchor).MeetsCall ↔ representative.MeetsCall :=
        ⟨fun h => h.copy hkind hfields, fun h => h.copy hkind.symm hfields.symm⟩
      rw [hsame, Node.meetsCall_iff, or_iff_right]
      intro hcall
      rw [hneeds.mpr (Or.inr hcall)] at hparens
      cases hparens

namespace Sample

/-- A program of one expression. -/
def program (stop : Nat) (expression : ParseTree) : ParseTree :=
  named "program" none 0 stop [named "expression_statement" none 0 stop [expression]]

def construction : Text := "new X();".toList

def constructionTree : ParseTree :=
  program 8 (named "new_expression" none 0 7 [
    named "identifier" (some "constructor") 4 5 [],
    named "arguments" (some "arguments") 5 7 []])

/-- The member of a name. -/
def member : Text := "a.b".toList

def memberTree : ParseTree :=
  program 3 (named "member_expression" none 0 3 [
    named "identifier" (some "object") 0 1 [],
    named "property_identifier" (some "property") 2 3 []])

/-- The member of what a call gives. -/
def memberOfCall : Text := "f().g".toList

def memberOfCallTree : ParseTree :=
  program 5 (named "member_expression" none 0 5 [
    named "call_expression" (some "object") 0 3 [
      named "identifier" (some "function") 0 1 [],
      named "arguments" (some "arguments") 1 3 []],
    named "property_identifier" (some "property") 4 5 []])

/-- The selector of names. -/
def names : Selector :=
  ⟨"Identifier".toList, some [.compound (.mk (some "Identifier") [] [])]⟩

end Sample

/-- No call is met after `new` where the member of a name is put there. -/
theorem Tree.meetsCall_of_constructor_iff_member :
    let tree := ofParseTree Sample.construction Sample.constructionTree
    ∃ fragment, Fragment.ofTree (ofParseTree Sample.member Sample.memberTree) = .ok fragment ∧
      let next := (tree.graft Sample.names fragment).tree
      ∃ copy, Occurrence.at? ⟨next.root, []⟩ [0, 0, 0] = some copy ∧ ¬ copy.node.MeetsCall ∧
        next.print = "new a.b();".toList := by
  intro tree
  refine ⟨_, rfl, ?_⟩
  intro next
  obtain ⟨copy, hcopy, -, -, hmeets⟩ :=
    @meetsCall_of_constructor_iff tree Sample.names _ [0, 0, 0] _ rfl rfl rfl rfl
  refine ⟨copy, hcopy, ?_, by decide +kernel⟩
  rw [hmeets]
  rintro ⟨-, object, hobject, h⟩
  obtain rfl := Value.node.inj (Option.some.inj hobject)
  rcases Node.meetsCall_iff.mp h with hkind | ⟨hkind | hkind, -⟩ <;>
    exact absurd hkind (by decide)

/-- **A call gets in after `new`**: the member of what a call gives is put there without
parentheses, and the arguments of the call are taken for those of `new`. -/
theorem Tree.call_meets_new :
    let tree := ofParseTree Sample.construction Sample.constructionTree
    ∃ fragment, Fragment.ofTree (ofParseTree Sample.memberOfCall Sample.memberOfCallTree)
        = .ok fragment ∧
      let next := (tree.graft Sample.names fragment).tree
      ∃ target copy, Occurrence.at? ⟨tree.root, []⟩ [0, 0, 0] = some target ∧
        target.isTopmost (Sample.names.marks tree) = true ∧
        target.slot.parent = "NewExpression" ∧ target.slot.field = "constructor" ∧
        Occurrence.at? ⟨next.root, []⟩ [0, 0, 0] = some copy ∧
        copy.node.kind = "MemberExpression" ∧ copy.node.MeetsCall ∧
        next.print = "new f().g();".toList :=
  ⟨_, rfl, _, _, rfl, rfl, rfl, rfl, rfl, rfl, .onward rfl (.call rfl), by decide +kernel⟩

end SyntaxGraft
