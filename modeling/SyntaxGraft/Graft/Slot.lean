import SyntaxGraft.Tree.Node
/-!
# Slots and how tightly they bind

A replacement is printed from its own text.  An expression that binds more loosely than the slot it
comes to stand in would be read differently there: `a + b` as the left operand of `x * 2` would
print as `a + b * 2`.  Such an expression needs parentheses, and `Slot.needsParens` says when.

Levels are those of the operator table of JavaScript; a higher level binds tighter.
-/

namespace SyntaxGraft

namespace Level

def sequence : Nat := 1
def assignment : Nat := 2
def conditional : Nat := 3
def coalesce : Nat := 4
def unary : Nat := 15
def update : Nat := 16
def newWithoutArguments : Nat := 17
def member : Nat := 18
def primary : Nat := 19

/-- The binary operators by level. -/
def binaryOperators : List (Nat × List String) := [
  (coalesce, ["??", "||"]),
  (5, ["&&"]),
  (6, ["|"]),
  (7, ["^"]),
  (8, ["&"]),
  (9, ["==", "!=", "===", "!=="]),
  (10, ["<", ">", "<=", ">=", "instanceof", "in"]),
  (11, ["<<", ">>", ">>>"]),
  (12, ["+", "-"]),
  (13, ["*", "/", "%"]),
  (14, ["**"])]

/-- The level of a binary operator. -/
def ofOperator? (operator : String) : Option Nat :=
  (binaryOperators.find? fun row => row.2.contains operator).map Prod.fst

end Level

namespace Node

/-- The operator token of a node that has one. -/
def operator? (node : Node) : Option String := do
  (← (← node.get? "operator").scalar?).str?

/-- How tightly a node binds when it is printed without parentheses. -/
def level (node : Node) : Nat :=
  match node.kind with
  | "SequenceExpression" => Level.sequence
  | "AssignmentExpression" | "AugmentedAssignmentExpression" | "ArrowFunction"
  | "YieldExpression" => Level.assignment
  | "TernaryExpression" => Level.conditional
  | "BinaryExpression" => (node.operator?.bind Level.ofOperator?).getD Level.coalesce
  | "UnaryExpression" | "AwaitExpression" => Level.unary
  | "UpdateExpression" => Level.update
  | "NewExpression" =>
    if (node.get? "arguments").isNone then Level.newWithoutArguments else Level.member
  | "CallExpression" | "MemberExpression" | "SubscriptExpression" => Level.member
  | _ => Level.primary

end Node

/-- The place of a node: the kind of its parent, the field, and the parent's operator. -/
structure Slot where
  parent : String
  field : String
  operator : Option String

namespace Slot

/-- The place of the root, with no syntax around it. -/
def root : Slot := ⟨"", "", none⟩

/-- The place is one among statements. -/
def isStatement (slot : Slot) : Bool :=
  Kind.isStatementSlot slot.parent slot.field

/-- The lowest level of an operand that needs no parentheses.  An operator groups to the left, so
its right operand has to bind tighter; `**` groups to the right and takes no unary operator on its
left. -/
def operandMinimum (side operator : String) : Nat :=
  match Level.ofOperator? operator with
  | none => 0
  | some level =>
    if side = "left" then (if operator = "**" then Level.update else level)
    else if side = "right" then (if operator = "**" then level else level + 1)
    else 0

/-- The slots before a member access, a call or an assignment. -/
def memberSlots : List (String × String) := [
  ("CallExpression", "function"),
  ("MemberExpression", "object"),
  ("SubscriptExpression", "object"),
  ("NewExpression", "constructor"),
  ("UpdateExpression", "argument"),
  ("AssignmentExpression", "left"),
  ("AugmentedAssignmentExpression", "left")]

/-- The kinds whose parts take anything but a sequence of expressions. -/
def elementKinds : List String :=
  ["AssignmentExpression", "AugmentedAssignmentExpression", "TernaryExpression", "ArrowFunction",
    "Arguments", "Array", "SpreadElement", "Pair", "VariableDeclarator", "AssignmentPattern",
    "YieldExpression"]

/-- The lowest level an expression may have here without parentheses. -/
def minimum (slot : Slot) : Nat :=
  if slot.parent = "BinaryExpression" then
    match slot.operator with
    | some operator => operandMinimum slot.field operator
    | none => 0
  else if slot.parent = "UnaryExpression" ∧ slot.field = "argument"
      ∨ slot.parent = "AwaitExpression" then Level.unary
  else if memberSlots.contains (slot.parent, slot.field) then Level.member
  else if slot.parent = "TernaryExpression" ∧ slot.field = "condition" then Level.coalesce
  else if elementKinds.contains slot.parent then Level.assignment
  else 0

/-- The operators that do not mix with `??`. -/
def isLogical (operator : Option String) : Bool :=
  operator == some "||" || operator == some "&&"

/-- One operator is `??` and the other logical: neither may be an operand of the other without
parentheses. -/
def mixesCoalesce (outer inner : Option String) : Bool :=
  (outer == some "??" && isLogical inner) || (isLogical outer && inner == some "??")

/-- The expression has to be put into parentheses to keep its meaning here. -/
def needsParens (slot : Slot) (expression : Node) : Bool :=
  if expression.level < slot.minimum then true
  else if slot.parent = "BinaryExpression" then
    (slot.field == "left" || slot.field == "right") && expression.kind == "BinaryExpression"
      && mixesCoalesce slot.operator expression.operator?
  -- `new (f())()` is not `new f()()`.
  else if slot.parent = "NewExpression" ∧ slot.field = "constructor" then
    expression.kind == "CallExpression"
  -- The dot of `1.toString()` would belong to the number.
  else if slot.parent = "MemberExpression" ∧ slot.field = "object" then
    expression.kind == "Number"
  else false

end Slot

end SyntaxGraft
