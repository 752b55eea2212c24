import SyntaxGraft.Graft.Pass
import SyntaxGraft.Proofs.Expression.Grammar
/-!
# Parentheses by level and by grammar

`Slot.needsParens` compares two numbers and looks out for `??` beside `||` and `&&`.  The grammar of
expressions knows neither: it says from which strata an operand is derived.  Here the two are shown
to agree in the slots of operators, up to one thing.  `Slot.derives_bare_iff` is the result: put
into such a slot of a derivable expression, however deep, an expression can do without parentheses
exactly when `needsParens` is false and it does not open an arrow function's body with a brace.
`needsParens` does not look that far, and `Slot.object_opens_body` is a graft that goes wrong by it:
`() => x + 1` with an object for `x`.

A node stands for an expression by its kind, its operator and the presence of arguments
(`Form.Heads`), which is all that the levels look at.  `OperatorSlot.bounds` says that the strata of
a production and the levels of a slot agree; the rest follows from it by
`Context.derivesFrom_of_plug` and `Frame.derivesFrom_plug_mono`.
-/

namespace SyntaxGraft

/-! ### Nodes for expressions -/

namespace Form

/-- The kind of node (`Node.kind`) for an expression of this form. -/
def kind : Form → String
  | primary kind _ => kind
  | metaProperty _ => "MetaProperty"
  | parenthesized => "ParenthesizedExpression"
  | applied suffix _ => suffix.kind
  | rooted _ suffix => suffix.kind
  | construction _ => "NewExpression"
  | updateBefore _ | updateAfter _ => "UpdateExpression"
  | unary _ => "UnaryExpression"
  | await => "AwaitExpression"
  | binary _ | brandCheck _ => "BinaryExpression"
  | ternary => "TernaryExpression"
  | assignment => "AssignmentExpression"
  | augmented _ => "AugmentedAssignmentExpression"
  | arrow _ _ | arrowBlock _ _ _ => "ArrowFunction"
  | yieldNothing | yieldOf _ => "YieldExpression"
  | sequence => "SequenceExpression"

/-- The operator (`Node.operator?`) of an expression of this form. -/
def operator? : Form → Option Token
  | updateBefore operator | updateAfter operator | unary operator | binary operator
  | augmented operator => some operator
  | brandCheck _ => some "in"
  | _ => none

/-- An expression of this form has arguments: a call has, and a `construction` may. -/
def hasArguments : Form → Bool
  | applied suffix _ | rooted _ suffix => suffix.isArguments || suffix.isTemplate
  | construction arguments => arguments.isSome
  | _ => false

/-- The node is one for an expression of this form: all that `Node.level` and `Slot.mixesCoalesce`
read of it is so. -/
structure Heads (form : Form) (node : Node) : Prop where
  kind_eq : node.kind = form.kind
  operator?_eq : node.operator? = form.operator?
  isNone_arguments : (node.get? "arguments").isNone = !form.hasArguments

/-- The slots of operators: which operand of the form stands in which field of its node. -/
inductive OperatorSlot : Form → Nat → String → Prop
  | left (operator : Token) : OperatorSlot (binary operator) 0 "left"
  | right (operator : Token) : OperatorSlot (binary operator) 1 "right"
  | brand (name : Token) : OperatorSlot (brandCheck name) 0 "right"
  | argument (operator : Token) : OperatorSlot (unary operator) 0 "argument"
  | awaited : OperatorSlot await 0 Kind.childrenField
  | condition : OperatorSlot ternary 0 "condition"
  | consequence : OperatorSlot ternary 1 "consequence"
  | alternative : OperatorSlot ternary 2 "alternative"
  | assigned : OperatorSlot assignment 1 "right"
  | augmented (operator : Token) : OperatorSlot (augmented operator) 1 "right"

/-- The slot of an operand, by its `field`. -/
def slot (form : Form) (field : String) : Slot :=
  ⟨form.kind, field, form.operator?⟩

theorem Heads.parenthesized (id : Nat) (node : Node) :
    parenthesized.Heads (Node.parenthesized id node) where
  kind_eq := rfl
  operator?_eq := by
    simp [Node.operator?, Node.parenthesized, Node.wrapper, Node.get?, Fields.get?,
      Kind.expressionField, operator?]
  isNone_arguments := by
    simp [Node.parenthesized, Node.wrapper, Node.get?, Fields.get?, Kind.expressionField,
      hasArguments]

end Form

/-! ### Levels of strata -/

namespace Stratum

/-- The strata with productions other than units. -/
def producing : List Stratum := [
  expression, assignment, conditional, coalesce, logicalOr, logicalAnd, bitwiseOr, bitwiseXor,
  bitwiseAnd, equality, relational, shift, additive, multiplicative, exponentiation, unary, update,
  construction, call, optionalChain, member, primary]

/-- The level of what a stratum produces, where everything that binds tighter than an update is one
level: no operator tells these apart. -/
def floor : Stratum → Nat
  | expression => Level.sequence
  | assignment => Level.assignment
  | conditional => Level.conditional
  | shortCircuit | coalesceHead | coalesce | logicalOr => Level.coalesce
  | logicalAnd => 5
  | bitwiseOr => 6
  | bitwiseXor => 7
  | bitwiseAnd => 8
  | equality => 9
  | relational => 10
  | shift => 11
  | additive => 12
  | multiplicative => 13
  | exponentiation => 14
  | unary => Level.unary
  | update => Level.update
  | leftHandSide | construction | call | optionalChain | member | primary =>
    Level.newWithoutArguments

/-- What the stratum produces does not mix with the operator `outer` around it. -/
def clashes (outer : Option Token) (stratum : Stratum) : Bool :=
  (outer == some "??" && (stratum = logicalOr || stratum = logicalAnd))
    || (Slot.isLogical outer && stratum = coalesce)

instance (stratum goal : Stratum) : Decidable (stratum.Reaches goal) :=
  decidable_of_iff _ reaches_iff.symm

/-- The stratum leads to just what binds at `minimum` or tighter and does not clash with the
operator.  `floor` tells nothing apart above `newWithoutArguments`, so no minimum lies there. -/
def Bounds (minimum : Nat) (outer : Option Token) (stratum : Stratum) : Prop :=
  minimum ≤ Level.newWithoutArguments ∧ ∀ produced ∈ producing,
    stratum.Reaches produced ↔ minimum ≤ produced.floor ∧ produced.clashes outer = false

instance (minimum : Nat) (outer : Option Token) (stratum : Stratum) :
    Decidable (stratum.Bounds minimum outer) :=
  inferInstanceAs (Decidable (_ ∧ _))

end Stratum

namespace Form

/-- The row of a binary production gives the level of its operators, and says which of them are
logical and which one is `??`. -/
theorem binaryProductions_levels : ∀ row ∈ binaryProductions, ∀ operator ∈ row.1,
    Level.ofOperator? operator = some row.2.1.floor ∧ row.2.1.floor < Level.newWithoutArguments ∧
      Slot.isLogical (some operator) = (row.2.1 = .logicalOr || row.2.1 = .logicalAnd) ∧
        (operator == "??") = (row.2.1 = .coalesce : Bool) := by
  decide +kernel

theorem Produces.mem_producing {form : Form} {scope : Scope} {stratum : Stratum}
    {strata : List Stratum} (h : form.Produces scope stratum strata) :
    stratum ∈ Stratum.producing := by
  have hrows : ∀ row ∈ binaryProductions, row.2.1 ∈ Stratum.producing := by decide
  cases h with
  | binary hrow _ => exact hrows _ hrow
  | _ => decide

/-- `Node.level` is the `floor` of the stratum that produces the node's form. -/
theorem Produces.min_level {form : Form} {node : Node} {scope : Scope} {stratum : Stratum}
    {strata : List Stratum} (h : form.Produces scope stratum strata) (hnode : form.Heads node) :
    min node.level Level.newWithoutArguments = stratum.floor := by
  unfold Node.level
  rw [hnode.kind_eq, hnode.operator?_eq, hnode.isNone_arguments]
  -- Only operators have a table of levels; elsewhere the kind decides, and the case computes.
  cases h with
  | binary hrow hoperator =>
    obtain ⟨hlevel, hlt, _⟩ := binaryProductions_levels _ hrow _ hoperator
    simp only [kind, operator?, Option.bind_some, hlevel, Option.getD_some]
    exact Nat.min_eq_left (Nat.le_of_lt hlt)
  | @primary kind tokens hkind =>
    simp only [primaryKinds, List.mem_cons, List.not_mem_nil, or_false] at hkind
    rcases hkind with rfl | rfl | rfl | rfl | rfl | rfl | rfl | rfl | rfl | rfl | rfl | rfl | rfl |
      rfl | rfl <;> rfl
  | @member suffix hsuffix => cases suffix <;> rfl
  | @memberOfSuper suffix hsuffix => cases suffix <;> rfl
  | callApplied suffix => cases suffix <;> rfl
  | @optionalChain _ _ suffix => cases suffix <;> rfl
  | @optionalChainApplied suffix => cases suffix <;> rfl
  | _ => rfl

/-- `mixesCoalesce` is `clashes` of the stratum that produces the node's form. -/
theorem Produces.mixesCoalesce_eq {form : Form} {node : Node} {scope : Scope} {stratum : Stratum}
    {strata : List Stratum} (h : form.Produces scope stratum strata) (hnode : form.Heads node)
    (outer : Option Token) :
    (node.kind == "BinaryExpression" && Slot.mixesCoalesce outer node.operator?)
      = stratum.clashes outer := by
  rw [hnode.kind_eq, hnode.operator?_eq]
  cases h with
  | binary hrow hoperator =>
    obtain ⟨_, _, hlogical, hcoalesce⟩ := binaryProductions_levels _ hrow _ hoperator
    unfold Slot.mixesCoalesce Stratum.clashes
    rw [operator?, hlogical, ← hcoalesce]
    simp [kind]
  | brandCheck name => simp [kind, operator?, Slot.mixesCoalesce, Slot.isLogical, Stratum.clashes]
  | @primary kind tokens hkind =>
    have hkinds : ∀ kind ∈ primaryKinds, (kind == "BinaryExpression") = false := by decide
    simp [Form.kind, hkinds kind hkind, Stratum.clashes]
  | @member suffix hsuffix => cases suffix <;> simp [kind, Suffix.kind, Stratum.clashes]
  | @memberOfSuper suffix hsuffix => cases suffix <;> simp [kind, Suffix.kind, Stratum.clashes]
  | callApplied suffix => cases suffix <;> simp [kind, Suffix.kind, Stratum.clashes]
  | @optionalChain _ _ suffix => cases suffix <;> simp [kind, Suffix.kind, Stratum.clashes]
  | @optionalChainApplied suffix => cases suffix <;> simp [kind, Suffix.kind, Stratum.clashes]
  | _ => simp [kind, Suffix.kind, Stratum.clashes]

/-- The operands of a binary production are bounded by the lowest levels for its operators. -/
theorem binaryProductions_bounds : ∀ row ∈ binaryProductions, ∀ operator ∈ row.1,
    row.2.2.1.Bounds (Slot.operandMinimum "left" operator) (some operator) ∧
      row.2.2.2.Bounds (Slot.operandMinimum "right" operator) (some operator) := by
  decide +kernel

/-- The operator that an operand of the form must not clash with, that of a binary one
(`Form.kind`). -/
def outer? (form : Form) : Option Token :=
  if form.kind = "BinaryExpression" then form.operator? else none

/-- **Strata and levels agree** (`Stratum.floor`, `Slot.minimum`).  What a production asks of the
operand in an operator's slot is the lowest level that the slot has. -/
theorem OperatorSlot.bounds {form : Form} {number : Nat} {field : String} {scope : Scope}
    {stratum place : Stratum} {strata : List Stratum} (hslot : form.OperatorSlot number field)
    (h : form.Produces scope stratum strata) (hplace : strata[number]? = some place) :
    place.Bounds (form.slot field).minimum form.outer? := by
  -- The slot names the form, and the form its productions; each leaves one stratum for `place`.
  cases hslot with
  | left operator =>
    cases h with
    | binary hrow hoperator =>
      obtain rfl := Option.some.inj hplace
      exact (binaryProductions_bounds _ hrow _ hoperator).1
  | right operator =>
    cases h with
    | binary hrow hoperator =>
      obtain rfl := Option.some.inj hplace
      exact (binaryProductions_bounds _ hrow _ hoperator).2
  | brand name =>
    cases h
    obtain rfl := Option.some.inj hplace
    have hshift : Stratum.shift.Bounds (Slot.operandMinimum "right" "in") (some "in") := by
      decide +kernel
    exact hshift
  | argument | awaited =>
    cases h
    obtain rfl := Option.some.inj hplace
    have hunary : Stratum.unary.Bounds Level.unary none := by decide +kernel
    exact hunary
  | condition =>
    cases h
    obtain rfl := Option.some.inj hplace
    have hcondition : Stratum.shortCircuit.Bounds Level.coalesce none := by decide +kernel
    exact hcondition
  | consequence | alternative | assigned | augmented =>
    cases h
    obtain rfl := Option.some.inj hplace
    have hassignment : Stratum.assignment.Bounds Level.assignment none := by decide +kernel
    exact hassignment

/-- In the slot of an operator `needsParens` has two reasons: a level that is too low, and operators
that do not mix. -/
theorem OperatorSlot.needsParens_eq_false_iff {form : Form} {number : Nat} {field : String}
    (hslot : form.OperatorSlot number field) (node : Node) :
    (form.slot field).needsParens node = false ↔ (form.slot field).minimum ≤ node.level ∧
      (node.kind == "BinaryExpression" && Slot.mixesCoalesce form.outer? node.operator?)
        = false := by
  unfold Slot.needsParens
  rw [← Nat.not_lt]
  -- The cases behind the level's are for constructors and for numbers: none in these slots.
  by_cases hlevel : node.level < (form.slot field).minimum
  · simp [hlevel]
  · rw [if_neg hlevel, and_iff_right hlevel]
    cases hslot <;> simp [slot, kind, outer?, operator?, Slot.mixesCoalesce, Slot.isLogical]

end Form

namespace Expression

/-- What is derived from any stratum is an expression: all strata are reached from `expression`. -/
theorem DerivesFrom.expression {expression : Expression} {scope : Scope} {stratum : Stratum}
    (h : expression.DerivesFrom scope stratum) : expression.DerivesFrom scope .expression := by
  have hreaches : ∀ produced ∈ Stratum.producing, Stratum.expression.Reaches produced := by
    decide +kernel
  obtain ⟨produced, strata, _, hproduced⟩ := derivesFrom_iff.mp h
  exact derivesFrom_iff.mpr ⟨produced, strata, hreaches _ hproduced.1.mem_producing, hproduced⟩

/-- A derivable expression is derived from a bounded stratum just when its node has the level and
does not clash. -/
theorem derivesFrom_iff_of_bounds {expression : Expression} {node : Node} {scope : Scope}
    {place : Stratum} {minimum : Nat} {outer : Option Token} (hplace : place.Bounds minimum outer)
    (hnode : expression.form.Heads node) :
    expression.DerivesFrom scope place ↔ expression.DerivesFrom scope .expression ∧
      minimum ≤ node.level ∧
      (node.kind == "BinaryExpression" && Slot.mixesCoalesce outer node.operator?) = false := by
  obtain ⟨hminimum, hreaches⟩ := hplace
  -- Whatever stratum produces the form, `Bounds` says whether `place` leads there.
  have hproduced : ∀ {produced : Stratum} {strata : List Stratum},
      expression.form.Produces scope produced strata →
      (place.Reaches produced ↔ minimum ≤ node.level ∧
        (node.kind == "BinaryExpression" && Slot.mixesCoalesce outer node.operator?) = false) := by
    intro produced strata hform
    rw [hreaches produced hform.mem_producing, hform.mixesCoalesce_eq hnode,
      ← hform.min_level hnode, Nat.le_min]
    simp [hminimum]
  constructor
  · intro hderives
    obtain ⟨_, _, hplace, hform, _⟩ := derivesFrom_iff.mp hderives
    exact ⟨hderives.expression, (hproduced hform).mp hplace⟩
  · rintro ⟨h, hlevel⟩
    obtain ⟨produced, strata, _, hform, hrest⟩ := derivesFrom_iff.mp h
    exact derivesFrom_iff.mpr ⟨produced, strata, (hproduced hform).mpr hlevel, hform, hrest⟩

/-- An expression is derived from the stratum of an operator's slot just when it is derivable and
needs no parentheses there. -/
theorem derivesFrom_place_iff {form : Form} {number : Nat} {field : String} {outer scope : Scope}
    {stratum place : Stratum} {strata : List Stratum} {expression : Expression} {node : Node}
    (hslot : form.OperatorSlot number field) (hform : form.Produces outer stratum strata)
    (hplace : strata[number]? = some place) (hnode : expression.form.Heads node) :
    expression.DerivesFrom scope place ↔ expression.DerivesFrom scope .expression ∧
      (form.slot field).needsParens node = false := by
  rw [hslot.needsParens_eq_false_iff]
  exact derivesFrom_iff_of_bounds (hslot.bounds hform hplace) hnode

/-- The same in place, with any surroundings.  Those add the condition on the first token. -/
theorem derivesFrom_plug_iff_needsParens {context : Context} {frame : Frame}
    {operand expression : Expression} {scope : Scope} {stratum : Stratum} {node : Node}
    {field : String}
    (hhost : (Context.plug (frame :: context) operand).DerivesFrom scope stratum)
    (hslot : frame.form.OperatorSlot frame.before.length field)
    (hnode : expression.form.Heads node) :
    (Context.plug (frame :: context) expression).DerivesFrom scope stratum ↔
      expression.DerivesFrom (Context.inside scope (frame :: context)) .expression ∧
        (frame.form.slot field).needsParens node = false ∧
        (Context.opensBody (frame :: context) → expression.tokens.head? ≠ some openingBrace) := by
  constructor
  · intro hplugged
    obtain ⟨_, hframe⟩ := context.derivesFrom_of_plug hplugged
    obtain ⟨produced, before, place, after, _, hform, hbefore, hexpression, _⟩ :=
      Frame.derivesFrom_plug_iff.mp hframe
    -- The operand's number is the length of `before`, for strata and for operands.
    have hplace : (before ++ place :: after)[frame.before.length]? = some place := by
      simp [← hbefore.length_eq]
    obtain ⟨hderives, hparens⟩ := (derivesFrom_place_iff hslot hform hplace hnode).mp hexpression
    exact ⟨hderives, hparens, Context.head?_ne_of_opensBody (frame :: context) hplugged⟩
  · -- The frame takes the expression in any place where it took the operand.
    rintro ⟨hderives, hparens, hbrace⟩
    have hexchange : ∀ place, (frame.plug operand).DerivesFrom (context.inside scope) place →
        (frame.plug expression).DerivesFrom (context.inside scope) place := by
      intro place hframe
      refine Frame.derivesFrom_plug_mono ?_ (fun harrow => hbrace (Or.inl harrow)) hframe
      intro produced before place after hform hlength _
      have hplace : (before ++ place :: after)[frame.before.length]? = some place := by
        simp [← hlength]
      exact (derivesFrom_place_iff hslot hform hplace hnode).mpr ⟨hderives, hparens⟩
    obtain ⟨place, hframe⟩ := context.derivesFrom_of_plug hhost
    have hhead := context.head?_plug_ne_of_opensBody hhost (hexchange place hframe) hbrace
    exact context.derivesFrom_plug_mono hexchange hhead hhost

/-- The tokens around the place add no condition: what is derivable is derived as it is written. -/
theorem derives_plug_iff {context : Context} {expression : Expression} {scope : Scope}
    {stratum : Stratum} :
    Derives scope stratum (context.tokensBefore ++ expression.tokens ++ context.tokensAfter)
      (context.plug expression) ↔ (context.plug expression).DerivesFrom scope stratum := by
  rw [derives_iff]
  constructor
  · exact And.right
  · intro h
    exact ⟨(context.tokens_plug h).symm, h⟩

/-- An expression in parentheses is derivable just when the expression is. -/
theorem derivesFrom_parenthesized_iff {expression : Expression} {scope : Scope} :
    expression.parenthesized.DerivesFrom scope .expression ↔
      expression.DerivesFrom scope .expression := by
  constructor
  · intro h
    obtain ⟨_, _, _, hform, hoperands, _⟩ := derivesFrom_iff.mp h
    cases hform with
    | parenthesized =>
      cases hoperands with
      | cons hinner _ => exact hinner
  · intro h
    have hreaches : Stratum.expression.Reaches .primary := by decide +kernel
    exact derivesFrom_iff.mpr ⟨_, _, hreaches, .parenthesized, .cons h .nil, by simp [Form.Admits,
      parenthesized, form, Form.isArrow]⟩

theorem head?_parenthesized_ne (expression : Expression) :
    expression.parenthesized.tokens.head? ≠ some openingBrace := by
  have hhead : expression.parenthesized.tokens.head? = some "(" := rfl
  rw [hhead]
  decide

end Expression

/-! ### Grafts into the slots of operators -/

namespace Form

/-- Nothing that stands in parentheses needs them, in the slot of an operator: its level is
`Level.primary`. -/
theorem OperatorSlot.needsParens_parenthesized {form : Form} {number : Nat} {field : String}
    {scope : Scope} {stratum place : Stratum} {strata : List Stratum}
    (hslot : form.OperatorSlot number field) (h : form.Produces scope stratum strata)
    (hplace : strata[number]? = some place) (id : Nat) (node : Node) :
    (form.slot field).needsParens (Node.parenthesized id node) = false := by
  obtain ⟨hminimum, _⟩ := hslot.bounds h hplace
  rw [hslot.needsParens_eq_false_iff]
  have hlevel : (Node.parenthesized id node).level = Level.primary := rfl
  rw [hlevel]
  exact ⟨Nat.le_trans hminimum (by decide), rfl⟩

/-- The slot of an operator is none for statements, so `Graft.fit` adds parentheses or nothing. -/
theorem OperatorSlot.isStatement_eq_false {form : Form} {number : Nat} {field : String}
    (hslot : form.OperatorSlot number field) : (form.slot field).isStatement = false := by
  cases hslot <;> rfl

end Form

open Expression in
/-- **Parentheses, exactly.**  Let an operand of an operator stand in a derivable expression, at any
depth, and let another expression be put there in its place.  Without parentheses, the tokens that
result are derived with that expression for the operand, and with everything else as it was, if and
only if the expression is derivable in the scope of the place, `needsParens` is false, and it does
not open the body of an arrow function with a brace.  In parentheses they are derived whenever the
expression is derivable there.

So what a graft puts there, which has parentheses if `needsParens` is true, is derived except when
parentheses are left out in front of a brace. -/
theorem Slot.derives_bare_iff {context : Context} {frame : Frame} {operand clone : Expression}
    {scope : Scope} {stratum : Stratum} {parent node : Node} {field : String}
    (hhost : (Context.plug (frame :: context) operand).DerivesFrom scope stratum)
    (hparent : frame.form.Heads parent)
    (hslot : frame.form.OperatorSlot frame.before.length field)
    (hnode : clone.form.Heads node) (nextId : Nat) :
    let slot : Slot := ⟨parent.kind, field, parent.operator?⟩
    let place : Context := frame :: context
    let derivesWith (expression : Expression) : Prop :=
      Derives scope stratum (place.tokensBefore ++ expression.tokens ++ place.tokensAfter)
        (place.plug expression)
    let derivable := clone.DerivesFrom (place.inside scope) .expression
    let opensBlock := place.opensBody ∧ clone.tokens.head? = some openingBrace
    (derivesWith clone ↔ derivable ∧ slot.needsParens node = false ∧ ¬ opensBlock) ∧
      (derivesWith clone.parenthesized ↔ derivable) ∧
      ∃ fitted, fitted = (if slot.needsParens node then clone.parenthesized else clone) ∧
        fitted.form.Heads (Graft.fit slot node nextId).1 ∧
        (derivesWith fitted ↔ derivable ∧ ¬ (slot.needsParens node = false ∧ opensBlock)) := by
  intro slot place derivesWith derivable opensBlock
  have hslot_eq : slot = frame.form.slot field := by
    simp only [slot, Form.slot, hparent.kind_eq, hparent.operator?_eq]
  have hbare : derivesWith clone ↔ derivable ∧ slot.needsParens node = false ∧ ¬ opensBlock := by
    rw [hslot_eq, not_and]
    exact derives_plug_iff.trans (derivesFrom_plug_iff_needsParens hhost hslot hnode)
  have hparenthesized : derivesWith clone.parenthesized ↔ derivable := by
    obtain ⟨_, hframe⟩ := context.derivesFrom_of_plug hhost
    obtain ⟨_, before, inner, after, _, hform, hbefore, _⟩ := Frame.derivesFrom_plug_iff.mp hframe
    have hinner : (before ++ inner :: after)[frame.before.length]? = some inner := by
      simp [← hbefore.length_eq]
    -- The expression in parentheses is itself one that needs none, and begins with no brace.
    have hneeds := hslot.needsParens_parenthesized hform hinner nextId node
    have hheads : clone.parenthesized.form.Heads (Node.parenthesized nextId node) :=
      Form.Heads.parenthesized nextId node
    refine derives_plug_iff.trans ?_
    rw [derivesFrom_plug_iff_needsParens hhost hslot hheads, derivesFrom_parenthesized_iff]
    simp [hneeds, head?_parenthesized_ne, derivable, place]
  have hfit : Graft.fit slot node nextId =
      if slot.needsParens node then (Node.parenthesized nextId node, nextId + 1)
      else (node, nextId) := by
    unfold Graft.fit
    rw [hslot_eq, hslot.isStatement_eq_false]
    rfl
  refine ⟨hbare, hparenthesized, _, rfl, ?_, ?_⟩
  · -- the fitted node is one for the fitted expression
    rw [hfit]
    by_cases hparens : slot.needsParens node = true
    · simp only [if_pos hparens]
      exact Form.Heads.parenthesized nextId node
    · simp only [if_neg hparens]
      exact hnode
  · -- it is derived by `hparenthesized` or by `hbare`, as `needsParens` has it
    by_cases hparens : slot.needsParens node = true
    · rw [if_pos hparens, hparenthesized, hparens]
      simp
    · rw [if_neg hparens, hbare, Bool.eq_false_iff.mpr hparens]
      simp

/-- A primary expression (`Form.primary`). -/
def Expression.atom (kind : String) (tokens : List Token) : Expression :=
  .mk (.primary kind tokens) []

/-- An identifier. -/
def Expression.name (text : Token) : Expression :=
  atom "Identifier" [text]

/-- An operator between two expressions. -/
def Expression.binary (operator : Token) (left right : Expression) : Expression :=
  .mk (.binary operator) [left, right]

theorem Expression.derivesFrom_atom {kind : String} {tokens : List Token}
    (hkind : kind ∈ Form.primaryKinds) (hne : tokens ≠ [])
    (hbrace : tokens.head? = some openingBrace ↔ kind = "Object") (scope : Scope)
    {stratum : Stratum} (h : stratum.Reaches .primary) :
    (atom kind tokens).DerivesFrom scope stratum :=
  derivesFrom_iff.mpr ⟨_, _, h, .primary hkind hne hbrace, .nil,
    by simp [Form.Admits, form, atom, operands]⟩

theorem Expression.derivesFrom_name {text : Token} (htext : text ≠ openingBrace) (scope : Scope)
    {stratum : Stratum} (h : stratum.Reaches .primary) : (name text).DerivesFrom scope stratum :=
  derivesFrom_atom (by decide) (by simp) (by simpa using htext) scope h

theorem Expression.derivesFrom_binary (row : List Token × Stratum × Stratum × Stratum)
    (hrow : row ∈ Form.binaryProductions) {operator : Token} (hoperator : operator ∈ row.1)
    {left right : Expression} {scope : Scope} (hleft : left.DerivesFrom scope row.2.2.1)
    (hright : right.DerivesFrom scope row.2.2.2) {stratum : Stratum}
    (h : stratum.Reaches row.2.1) : (binary operator left right).DerivesFrom scope stratum :=
  derivesFrom_iff.mpr ⟨_, _, h, .binary hrow hoperator, .cons hleft (.cons hright .nil),
    by simp [Form.Admits, form, binary, Form.isArrow]⟩

/-- A node with this `operator` between its operands. -/
def Node.binary (operator : String) : Node :=
  .mk { id := 0, kind := "BinaryExpression", origin := none, anchor := none }
    [.mk "operator" (.scalar (.str operator))]

theorem Form.Heads.binary (operator : Token) : (binary operator).Heads (Node.binary operator) where
  kind_eq := rfl
  operator?_eq := by
    simp [Node.operator?, Node.binary, Node.get?, Fields.get?, Value.scalar?, Scalar.str?,
      Form.operator?]
  isNone_arguments := by simp [Node.binary, Node.get?, Fields.get?, Form.hasArguments]

open Expression in
/-- `a + b` for the left operand of the product in `y - x * z`: it gets parentheses. -/
theorem Slot.derives_bare_iff_sum_in_product :
    ¬ Derives ⟨false, false⟩ .expression ["y", "-", "a", "+", "b", "*", "z"]
        (binary "-" (name "y") (binary "*" (binary "+" (name "a") (name "b")) (name "z"))) ∧
      Derives ⟨false, false⟩ .expression ["y", "-", "(", "a", "+", "b", ")", "*", "z"]
        (binary "-" (name "y")
          (binary "*" (binary "+" (name "a") (name "b")).parenthesized (name "z"))) := by
  have hproduct : (binary "*" (name "x") (name "z")).DerivesFrom ⟨false, false⟩ .multiplicative :=
    derivesFrom_binary (["*", "/", "%"], .multiplicative, .multiplicative, .exponentiation)
      (by decide) (by decide) (derivesFrom_name (by decide) _ (by decide +kernel))
      (derivesFrom_name (by decide) _ (by decide +kernel)) (by decide +kernel)
  have hhost : (binary "-" (name "y") (binary "*" (name "x") (name "z"))).DerivesFrom
      ⟨false, false⟩ .expression :=
    derivesFrom_binary (["+", "-"], .additive, .additive, .multiplicative) (by decide) (by decide)
      (derivesFrom_name (by decide) _ (by decide +kernel)) hproduct (by decide +kernel)
  have hsum : (binary "+" (name "a") (name "b")).DerivesFrom ⟨false, false⟩ .expression :=
    derivesFrom_binary (["+", "-"], .additive, .additive, .multiplicative) (by decide) (by decide)
      (derivesFrom_name (by decide) _ (by decide +kernel))
      (derivesFrom_name (by decide) _ (by decide +kernel)) (by decide +kernel)
  obtain ⟨hbare, -, fitted, hfitted, -, hderives⟩ :=
    @Slot.derives_bare_iff [⟨.binary "-", [name "y"], []⟩] ⟨.binary "*", [], [name "z"]⟩
      (name "x") (binary "+" (name "a") (name "b")) ⟨false, false⟩ .expression (Node.binary "*")
      (Node.binary "+") "left" hhost (.binary "*") (.left "*") (.binary "+") 0
  have hparens : Slot.needsParens ⟨(Node.binary "*").kind, "left", (Node.binary "*").operator?⟩
      (Node.binary "+") = true := by decide +kernel
  rw [if_pos hparens] at hfitted
  subst hfitted
  constructor
  · intro h
    obtain ⟨-, hneeds, -⟩ := hbare.mp h
    rw [hneeds] at hparens
    exact Bool.false_ne_true hparens
  · refine hderives.mpr ⟨hsum, fun hneeds => ?_⟩
    rw [hneeds.1] at hparens
    exact Bool.false_ne_true hparens

/-- `{}` -/
def Expression.object : Expression :=
  atom "Object" [openingBrace, closingBrace]

/-- A node for `{}`. -/
def Node.object : Node :=
  .mk { id := 1, kind := "Object", origin := none, anchor := none } []

open Expression in
/-- **A brace left bare.**  `{}` for the `x` of `() => x + 1`: `needsParens` is false and a graft
leaves the object as it is, but `() => {} + 1` is not derived with a sum for the function's body. -/
theorem Slot.object_opens_body :
    let one := atom "Number" ["1"]
    let host (left : Expression) : Expression := .mk (.arrow false (.list [])) [binary "+" left one]
    let slot : Slot := ⟨(Node.binary "+").kind, "left", (Node.binary "+").operator?⟩
    (host (name "x")).DerivesFrom ⟨false, false⟩ .expression ∧
      object.DerivesFrom ⟨false, false⟩ .expression ∧ object.form.Heads Node.object ∧
      slot.needsParens Node.object = false ∧ (Graft.fit slot Node.object 2).1 = Node.object ∧
      ¬ Derives ⟨false, false⟩ .expression
        ["(", ")", "=>", openingBrace, closingBrace, "+", "1"] (host object) := by
  intro one host slot
  have hsum : (binary "+" (name "x") one).DerivesFrom ⟨false, false⟩ .assignment :=
    derivesFrom_binary (["+", "-"], .additive, .additive, .multiplicative) (by decide) (by decide)
      (derivesFrom_name (by decide) _ (by decide +kernel))
      (derivesFrom_atom (by decide) (by decide) (by decide) _ (by decide +kernel))
      (by decide +kernel)
  have hhost : (host (name "x")).DerivesFrom ⟨false, false⟩ .expression := by
    have hreaches : Stratum.expression.Reaches .assignment := by decide +kernel
    refine derivesFrom_iff.mpr ⟨_, _, hreaches, .arrow false (.list []), .cons hsum .nil, ?_⟩
    intro _
    decide +kernel
  have hobject : object.DerivesFrom ⟨false, false⟩ .expression :=
    derivesFrom_atom (by decide) (by decide) (by decide) _ (by decide +kernel)
  refine ⟨hhost, hobject, ⟨rfl, rfl, rfl⟩, by decide +kernel, by rfl, ?_⟩
  -- The sum begins with the place, and the sum is the body.
  intro h
  let place : Context := [⟨.binary "+", [], [one]⟩, ⟨.arrow false (.list []), [], []⟩]
  have hopens : place.opensBody := Or.inr ⟨rfl, Or.inl rfl⟩
  exact place.head?_ne_of_opensBody (derives_iff.mp h).2 hopens rfl

end SyntaxGraft
