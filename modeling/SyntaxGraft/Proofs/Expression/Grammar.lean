import Mathlib.Data.List.Forall2
import Mathlib.Logic.Relation
/-!
# The grammar of expressions

The expression grammar of ECMAScript, in strata: the operands of a production are given by the
strata they are derived from, and a stratum passes to the next tighter ones by unit productions.
What a production reads is its `Form`, a template of tokens with places for operands; what strata
the operands have is said by `Form.Produces`.  Both are taken from the standard and know nothing of
levels.  Unit productions are apart (`Stratum.units`), and `Stratum.reaches_iff` decides where they
lead.

Two things pass by the strata.  A `Scope` says whether `yield` and `await` are operators, and the
body of an arrow function has one of its own (`Form.inside`).  And a body that is an expression does
not begin with a brace (`Form.Admits`): that would open a block.

`Expression.Derives scope stratum tokens tree` says that the tokens are derived from the stratum
with this tree.  Literals, functions and classes are taken as they are written, with no operands
inside.  An expression stands on one line and is no statement: what the grammar says of line ends
and of the first token of a statement has no place here.

What is around an operand asks three things of it: a stratum, a scope and, at the left edge of an
arrow's body, a first token (`Frame.derivesFrom_plug_iff`, `Context.opensBody`).  So an expression
of any depth stays derivable when an operand gives way to one that meets them
(`Context.derivesFrom_plug_mono`).
-/

namespace SyntaxGraft

/-! ### Strata -/

/-- The nonterminals of expressions. -/
inductive Stratum where
  | expression
  | assignment
  | conditional
  | shortCircuit
  | coalesceHead
  | coalesce
  | logicalOr
  | logicalAnd
  | bitwiseOr
  | bitwiseXor
  | bitwiseAnd
  | equality
  | relational
  | shift
  | additive
  | multiplicative
  | exponentiation
  | unary
  | update
  | leftHandSide
  | construction
  | call
  | optionalChain
  | member
  | primary
  deriving DecidableEq

namespace Stratum

/-- The strata that a stratum passes to by a unit production.
-/
def units : Stratum → List Stratum
  | expression => [assignment]
  | assignment => [conditional]
  | conditional => [shortCircuit]
  | shortCircuit => [logicalOr, coalesce]
  | coalesceHead => [coalesce, bitwiseOr]
  | coalesce => []
  | logicalOr => [logicalAnd]
  | logicalAnd => [bitwiseOr]
  | bitwiseOr => [bitwiseXor]
  | bitwiseXor => [bitwiseAnd]
  | bitwiseAnd => [equality]
  | equality => [relational]
  | relational => [shift]
  | shift => [additive]
  | additive => [multiplicative]
  | multiplicative => [exponentiation]
  | exponentiation => [unary]
  | unary => [update]
  | update => [leftHandSide]
  | leftHandSide => [construction, call, optionalChain]
  | construction => [member]
  | call => []
  | optionalChain => []
  | member => [primary]
  | primary => []

/-- A stratum leads to another over unit productions (`units`). -/
def Reaches : Stratum → Stratum → Prop :=
  Relation.ReflTransGen fun stratum next => next ∈ stratum.units

/-- A stratum leads to `goal` over at most so many unit productions. -/
def reachesWithin : Nat → Stratum → Stratum → Bool
  | 0, stratum, goal => stratum = goal
  | bound + 1, stratum, goal =>
    stratum = goal || stratum.units.any fun next => reachesWithin bound next goal

/-- A bound on the number of unit productions from a stratum on. -/
def height : Stratum → Nat
  | expression => 20
  | assignment => 19
  | conditional => 18
  | shortCircuit => 17
  | coalesceHead => 16
  | coalesce => 0
  | logicalOr => 16
  | logicalAnd => 15
  | bitwiseOr => 14
  | bitwiseXor => 13
  | bitwiseAnd => 12
  | equality => 11
  | relational => 10
  | shift => 9
  | additive => 8
  | multiplicative => 7
  | exponentiation => 6
  | unary => 5
  | update => 4
  | leftHandSide => 3
  | construction => 2
  | call => 0
  | optionalChain => 0
  | member => 1
  | primary => 0

theorem height_lt_of_mem_units {stratum next : Stratum} (h : next ∈ stratum.units) :
    next.height < stratum.height := by
  have hall : ∀ next ∈ stratum.units, next.height < stratum.height := by
    cases stratum <;> decide
  exact hall next h

/-- `Reaches` can be decided: no path of `units` is longer than `height`, which is at most 20. -/
theorem reaches_iff {stratum goal : Stratum} :
    stratum.Reaches goal ↔ reachesWithin 20 stratum goal = true := by
  -- Each step that `reachesWithin` takes is one of `units`.
  have hwithin : ∀ bound stratum, reachesWithin bound stratum goal = true →
      stratum.Reaches goal := by
    intro bound
    induction bound with
    | zero =>
      intro stratum h
      rw [reachesWithin, decide_eq_true_eq] at h
      rw [h]
      exact .refl
    | succ bound ih =>
      intro stratum h
      rw [reachesWithin, Bool.or_eq_true, decide_eq_true_eq, List.any_eq_true] at h
      rcases h with rfl | ⟨next, hnext, hrest⟩
      · exact .refl
      · exact .head hnext (ih next hrest)
  -- From a stratum on, its height bounds the number of steps.
  have hheight : stratum.Reaches goal → ∀ bound, stratum.height ≤ bound →
      reachesWithin bound stratum goal = true := by
    intro h
    induction h using Relation.ReflTransGen.head_induction_on with
    | refl =>
      intro bound _
      cases bound <;> simp [reachesWithin]
    | @head stratum next hnext _ ih =>
      intro bound hbound
      have hlt := height_lt_of_mem_units hnext
      cases bound with
      | zero => omega
      | succ bound =>
        rw [reachesWithin, Bool.or_eq_true, List.any_eq_true]
        exact Or.inr ⟨next, hnext, ih bound (by omega)⟩
  have hbound : stratum.height ≤ 20 := by cases stratum <;> decide
  exact ⟨fun h => hheight h 20 hbound, hwithin 20 stratum⟩

end Stratum

/-! ### Forms -/

/-- A token, as it is written. -/
abbrev Token := String

/-- The token that opens an object or a block. -/
def openingBrace : Token := "\x7b"

/-- The token that closes an object or a block. -/
def closingBrace : Token := "\x7d"

/-- The arguments of a call: which of them are spread, and whether a comma follows the last. -/
structure Arguments where
  spread : List Bool
  comma : Bool
  spread_ne_nil_of_comma : comma = true → spread ≠ []

namespace Arguments

/-- The places of arguments, divided by commas. -/
def placesOf : List Bool → List (Option Token)
  | [] => []
  | [spread] => (if spread then [some "..."] else []) ++ [none]
  | spread :: rest => (if spread then [some "..."] else []) ++ none :: some "," :: placesOf rest

/-- The tokens with a place (`none`) for each argument. -/
def places (arguments : Arguments) : List (Option Token) :=
  some "(" :: placesOf arguments.spread ++ (if arguments.comma then [some ","] else [])
    ++ [some ")"]

/-- The strata of the arguments: each is an `assignment`. -/
def strata (arguments : Arguments) : List Stratum :=
  arguments.spread.map fun _ => .assignment

theorem count_placesOf (spread : List Bool) : (placesOf spread).count none = spread.length := by
  induction spread with
  | nil => rfl
  | cons first rest ih =>
    -- `placesOf` writes a comma unless the argument is the last.
    cases rest with
    | nil => cases first <;> rfl
    | cons second rest =>
      rw [placesOf, List.count_append, List.count_cons_self, List.count_cons, ih]
      · cases first <;> simp
      · simp

/-- `places` and `strata` agree on the number of arguments. -/
theorem count_places (arguments : Arguments) :
    arguments.places.count none = arguments.strata.length := by
  cases hcomma : arguments.comma <;> simp [places, strata, count_placesOf, hcomma]

end Arguments

/-- What follows an expression to the right of which it is applied or looked into. -/
inductive Suffix where
  /-- `.name` -/
  | property (name : Token)
  /-- `[index]` -/
  | index
  /-- `(…)` -/
  | arguments (list : Arguments)
  /-- A template literal. -/
  | template (text : Token)

namespace Suffix

/-- The tokens with a place for each operand.  In an optional chain the dot is `?.`, and the other
suffixes follow on one. -/
def places (optional : Bool) : Suffix → List (Option Token)
  | property name => [some (if optional then "?." else "."), some name]
  | index => (if optional then [some "?."] else []) ++ [some "[", none, some "]"]
  | arguments list => (if optional then [some "?."] else []) ++ list.places
  | template text => [some text]

/-- The strata of the operands. -/
def strata : Suffix → List Stratum
  | property _ => []
  | index => [.expression]
  | arguments list => list.strata
  | template _ => []

/-- `places` and `strata` agree on the number of a suffix's operands. -/
theorem count_places (optional : Bool) (suffix : Suffix) :
    (suffix.places optional).count none = suffix.strata.length := by
  cases suffix <;> cases optional <;> simp [places, strata, Arguments.count_places]

/-- A suffix has some token among its `places`. -/
theorem exists_token (optional : Bool) (suffix : Suffix) :
    ∃ token, some token ∈ suffix.places optional := by
  cases suffix with
  | property name => exact ⟨name, by simp [places]⟩
  | index => exact ⟨"[", by simp [places]⟩
  | arguments list => exact ⟨"(", by simp [places, Arguments.places]⟩
  | template text => exact ⟨text, by simp [places]⟩

/-- The kind of node for an expression with this suffix. -/
def kind : Suffix → String
  | property _ => "MemberExpression"
  | index => "SubscriptExpression"
  | arguments _ => "CallExpression"
  | template _ => "CallExpression"

/-- The suffix is a list of arguments. -/
def isArguments : Suffix → Bool
  | arguments _ => true
  | _ => false

/-- The suffix is a template literal. -/
def isTemplate : Suffix → Bool
  | template _ => true
  | _ => false

end Suffix

/-- The parameters of the grammar: whether `yield` and whether `await` are operators, as they are
in generators and in asynchronous functions. -/
structure Scope where
  yields : Bool
  awaits : Bool

/-- The parameters of an arrow function. -/
inductive Parameters where
  | name (text : Token)
  /-- Anything in parentheses. -/
  | list (inner : List Token)

/-- The tokens of the parameters. -/
def Parameters.tokens : Parameters → List Token
  | name text => [text]
  | list inner => "(" :: inner ++ [")"]

/-- What an expression is, its operands apart. -/
inductive Form where
  /-- An expression without operands, of one of the kinds of primary expressions. -/
  | primary (kind : String) (tokens : List Token)
  /-- `new.target` or `import.meta` -/
  | metaProperty (tokens : List Token)
  | parenthesized
  | applied (suffix : Suffix) (optional : Bool)
  /-- A suffix on `super` or on `import`, which are no expressions of their own. -/
  | rooted (root : Token) (suffix : Suffix)
  /-- `new`, with arguments or without. -/
  | construction (arguments : Option Arguments)
  | updateBefore (operator : Token)
  | updateAfter (operator : Token)
  | unary (operator : Token)
  | await
  | binary (operator : Token)
  /-- `#name in`, whose left side is no expression. -/
  | brandCheck (name : Token)
  | ternary
  | assignment
  | augmented (operator : Token)
  /-- An arrow function with an expression for its body. -/
  | arrow (isAsync : Bool) (parameters : Parameters)
  /-- An arrow function with statements for its body. -/
  | arrowBlock (isAsync : Bool) (parameters : Parameters) (statements : List Token)
  | yieldNothing
  | yieldOf (delegate : Bool)
  | sequence

namespace Form

/-- The tokens of an arrow function up to its body. -/
def arrowHead (isAsync : Bool) (parameters : Parameters) : List Token :=
  (if isAsync then ["async"] else []) ++ parameters.tokens ++ ["=>"]

/-- The tokens with a place for each operand. -/
def places : Form → List (Option Token)
  | primary _ tokens => tokens.map some
  | metaProperty tokens => tokens.map some
  | parenthesized => [some "(", none, some ")"]
  | applied suffix optional => none :: suffix.places optional
  | rooted root suffix => some root :: suffix.places false
  | construction none => [some "new", none]
  | construction (some list) => some "new" :: none :: list.places
  | updateBefore operator => [some operator, none]
  | updateAfter operator => [none, some operator]
  | unary operator => [some operator, none]
  | await => [some "await", none]
  | binary operator => [none, some operator, none]
  | brandCheck name => [some name, some "in", none]
  | ternary => [none, some "?", none, some ":", none]
  | assignment => [none, some "=", none]
  | augmented operator => [none, some operator, none]
  | arrow isAsync parameters => (arrowHead isAsync parameters).map some ++ [none]
  | arrowBlock isAsync parameters statements =>
    (arrowHead isAsync parameters ++ openingBrace :: statements ++ [closingBrace]).map some
  | yieldNothing => [some "yield"]
  | yieldOf delegate => some "yield" :: (if delegate then [some "*"] else []) ++ [none]
  | sequence => [none, some ",", none]

/-- The kinds of nodes for primary expressions. -/
def primaryKinds : List String :=
  ["This", "Identifier", "Undefined", "Null", "True", "False", "Number", "String", "Regex",
    "TemplateString", "Array", "Object", "FunctionExpression", "GeneratorFunction", "Class"]

/-- The expressions that name what a function or a module was called with. -/
def metaProperties : List (List Token) :=
  [["new", ".", "target"], ["import", ".", "meta"]]

/-- The operators that assign. -/
def assignmentOperators : List Token :=
  ["*=", "/=", "%=", "+=", "-=", "<<=", ">>=", ">>>=", "&=", "^=", "|=", "**=", "&&=", "||=",
    "??="]

/-- The unary operators. -/
def unaryOperators : List Token :=
  ["delete", "void", "typeof", "+", "-", "~", "!"]

/-- The operators that count up and down. -/
def updateOperators : List Token :=
  ["++", "--"]

/-- The binary productions: operators, with the strata of the result and of the two operands. -/
def binaryProductions : List (List Token × Stratum × Stratum × Stratum) := [
  (["??"], .coalesce, .coalesceHead, .bitwiseOr),
  (["||"], .logicalOr, .logicalOr, .logicalAnd),
  (["&&"], .logicalAnd, .logicalAnd, .bitwiseOr),
  (["|"], .bitwiseOr, .bitwiseOr, .bitwiseXor),
  (["^"], .bitwiseXor, .bitwiseXor, .bitwiseAnd),
  (["&"], .bitwiseAnd, .bitwiseAnd, .equality),
  (["==", "!=", "===", "!=="], .equality, .equality, .relational),
  (["<", ">", "<=", ">=", "instanceof", "in"], .relational, .relational, .shift),
  (["<<", ">>", ">>>"], .shift, .shift, .additive),
  (["+", "-"], .additive, .additive, .multiplicative),
  (["*", "/", "%"], .multiplicative, .multiplicative, .exponentiation),
  (["**"], .exponentiation, .update, .exponentiation)]

/-- The productions of the grammar in a scope, unit productions apart: the stratum that is read, the
form, and the strata of its operands. -/
inductive Produces (scope : Scope) : Stratum → Form → List Stratum → Prop
  | sequence : Produces scope .expression sequence [.expression, .assignment]
  | assignment : Produces scope .assignment assignment [.leftHandSide, .assignment]
  | augmented {operator : Token} (h : operator ∈ assignmentOperators) :
      Produces scope .assignment (augmented operator) [.leftHandSide, .assignment]
  | arrow (isAsync : Bool) (parameters : Parameters) :
      Produces scope .assignment (arrow isAsync parameters) [.assignment]
  | arrowBlock (isAsync : Bool) (parameters : Parameters) (statements : List Token) :
      Produces scope .assignment (arrowBlock isAsync parameters statements) []
  | yieldNothing (h : scope.yields = true) : Produces scope .assignment yieldNothing []
  | yieldOf (h : scope.yields = true) (delegate : Bool) :
      Produces scope .assignment (yieldOf delegate) [.assignment]
  | ternary : Produces scope .conditional ternary [.shortCircuit, .assignment, .assignment]
  | binary {operators : List Token} {result left right : Stratum} {operator : Token}
      (hrow : (operators, result, left, right) ∈ binaryProductions) (h : operator ∈ operators) :
      Produces scope result (binary operator) [left, right]
  | brandCheck (name : Token) : Produces scope .relational (brandCheck name) [.shift]
  | unary {operator : Token} (h : operator ∈ unaryOperators) :
      Produces scope .unary (unary operator) [.unary]
  | await (h : scope.awaits = true) : Produces scope .unary await [.unary]
  | updateBefore {operator : Token} (h : operator ∈ updateOperators) :
      Produces scope .update (updateBefore operator) [.unary]
  | updateAfter {operator : Token} (h : operator ∈ updateOperators) :
      Produces scope .update (updateAfter operator) [.leftHandSide]
  | construction : Produces scope .construction (construction none) [.construction]
  | constructionWith (list : Arguments) :
      Produces scope .member (construction (some list)) (.member :: list.strata)
  | member {suffix : Suffix} (h : suffix.isArguments = false) :
      Produces scope .member (applied suffix false) (.member :: suffix.strata)
  | memberOfSuper {suffix : Suffix} (h : suffix.isArguments = false)
      (htemplate : suffix.isTemplate = false) :
      Produces scope .member (rooted "super" suffix) suffix.strata
  | metaProperty {tokens : List Token} (h : tokens ∈ metaProperties) :
      Produces scope .member (metaProperty tokens) []
  | call (list : Arguments) :
      Produces scope .call (applied (.arguments list) false)
        (.member :: (Suffix.arguments list).strata)
  | callOfSuper (list : Arguments) :
      Produces scope .call (rooted "super" (.arguments list)) (Suffix.arguments list).strata
  | callOfImport {list : Arguments} (h : list.spread ∈ [[false], [false, false]]) :
      Produces scope .call (rooted "import" (.arguments list)) (Suffix.arguments list).strata
  | callApplied (suffix : Suffix) :
      Produces scope .call (applied suffix false) (.call :: suffix.strata)
  | optionalChain {start : Stratum} (h : start ∈ [.member, .call, .optionalChain])
      {suffix : Suffix} (htemplate : suffix.isTemplate = false) :
      Produces scope .optionalChain (applied suffix true) (start :: suffix.strata)
  | optionalChainApplied {suffix : Suffix} (htemplate : suffix.isTemplate = false) :
      Produces scope .optionalChain (applied suffix false) (.optionalChain :: suffix.strata)
  | parenthesized : Produces scope .primary parenthesized [.expression]
  /-- An object begins with a brace, and no other primary expression does. -/
  | primary {kind : String} {tokens : List Token} (h : kind ∈ primaryKinds) (hne : tokens ≠ [])
      (hbrace : tokens.head? = some openingBrace ↔ kind = "Object") :
      Produces scope .primary (primary kind tokens) []

/-- A form that `Produces` allows has a place for each of its operands.  So `fill` neither leaves a
place empty nor drops an operand. -/
theorem Produces.count_places {form : Form} {scope : Scope} {stratum : Stratum}
    {strata : List Stratum} (h : form.Produces scope stratum strata) :
    form.places.count none = strata.length := by
  cases h <;>
    simp [places, Suffix.count_places, Arguments.count_places, List.count_eq_zero]

/-- A form has some token among its `places`. -/
theorem Produces.exists_token {form : Form} {scope : Scope} {stratum : Stratum}
    {strata : List Stratum} (h : form.Produces scope stratum strata) :
    ∃ token, some token ∈ form.places := by
  have hsuffix : ∀ optional (suffix : Suffix), ∃ token,
      some token ∈ (applied suffix optional).places := by
    intro optional suffix
    obtain ⟨token, htoken⟩ := suffix.exists_token optional
    exact ⟨token, List.mem_cons_of_mem _ htoken⟩
  -- The token is the suffix's, the operator behind the first operand, or the first one of all.
  cases h with
  | member | call | callApplied | optionalChain | optionalChainApplied => exact hsuffix _ _
  | arrow => exact ⟨"=>", by simp [places, arrowHead]⟩
  | arrowBlock => exact ⟨"=>", by simp [places, arrowHead]⟩
  | metaProperty htokens =>
    rcases List.mem_pair.mp htokens with rfl | rfl <;> exact ⟨".", by simp [places]⟩
  | @primary kind tokens _ hne =>
    obtain ⟨token, htoken⟩ := List.exists_mem_of_ne_nil tokens hne
    exact ⟨token, List.mem_map_of_mem htoken⟩
  | updateAfter | binary | ternary | assignment | augmented | sequence =>
    exact ⟨_, List.mem_cons_of_mem _ List.mem_cons_self⟩
  | _ => exact ⟨_, List.mem_cons_self⟩

/-- The form is an arrow function with an expression for its body. -/
def isArrow : Form → Bool
  | arrow _ _ => true
  | _ => false

/-- The scope of the operands.  An arrow function is no generator, and its body awaits just when it
is asynchronous itself. -/
def inside (form : Form) (scope : Scope) : Scope :=
  match form with
  | arrow isAsync _ => ⟨false, isAsync⟩
  | _ => scope

/-- **Lookahead.**  The body of an arrow function does not begin with a brace. -/
def Admits (form : Form) (parts : List (List Token)) : Prop :=
  form.isArrow = true → ∀ part ∈ parts, part.head? ≠ some openingBrace

/-- `Admits` looks at each part by itself, so what it asks of one can be told from the rest. -/
theorem admits_append_cons {form : Form} {before after : List (List Token)} {part : List Token} :
    form.Admits (before ++ part :: after) ↔
      form.Admits (before ++ after) ∧ (form.isArrow = true → part.head? ≠ some openingBrace) := by
  unfold Admits
  rw [← imp_and]
  refine imp_congr_right fun _ => ?_
  simp only [List.forall_mem_append, List.forall_mem_cons]
  tauto

end Form

/-! ### Trees and derivations -/

/-- A tree of expressions: a `Form` with an expression for each place. -/
inductive Expression where
  | mk (form : Form) (operands : List Expression)

namespace Expression

/-- What the expression is, its operands apart: the `Form` at its top. -/
def form : Expression → Form
  | mk form _ => form

/-- The operands, in order. -/
def operands : Expression → List Expression
  | mk _ operands => operands

/-- The expression in parentheses, which is a `Form` with one operand. -/
def parenthesized (inner : Expression) : Expression :=
  mk .parenthesized [inner]

/-- The tokens of a form, with the tokens of each operand in its place. -/
def fill : List (Option Token) → List (List Token) → List Token
  | [], _ => []
  | some token :: places, operands => token :: fill places operands
  | none :: places, [] => fill places []
  | none :: places, operand :: operands => operand ++ fill places operands

mutual

/-- The tokens that the expression is written with (`fill`, all the way down). -/
def tokens : Expression → List Token
  | mk form operands => fill form.places (tokensOfEach operands)

/-- The tokens of each expression of a list. -/
def tokensOfEach : List Expression → List (List Token)
  | [] => []
  | expression :: rest => expression.tokens :: tokensOfEach rest

end

theorem tokensOfEach_eq (expressions : List Expression) :
    tokensOfEach expressions = expressions.map tokens := by
  induction expressions with
  | nil => rfl
  | cons expression rest ih => rw [tokensOfEach, ih, List.map_cons]

mutual

/-- **Derivations.**  In the scope, the tokens are derived from the stratum with this tree. -/
inductive Derives : Scope → Stratum → List Token → Expression → Prop
  | unit {scope : Scope} {stratum next : Stratum} {tokens : List Token} {tree : Expression}
      (h : next ∈ stratum.units) (hnext : Derives scope next tokens tree) :
      Derives scope stratum tokens tree
  | form {scope : Scope} {stratum : Stratum} {form : Form} {strata : List Stratum}
      {parts : List (List Token)} {operands : List Expression}
      (h : form.Produces scope stratum strata)
      (hoperands : DerivesEach (form.inside scope) strata parts operands)
      (hparts : form.Admits parts) :
      Derives scope stratum (fill form.places parts) (mk form operands)

/-- Each part is derived from its stratum, with its tree (`Derives`). -/
inductive DerivesEach : Scope → List Stratum → List (List Token) → List Expression → Prop
  | nil {scope : Scope} : DerivesEach scope [] [] []
  | cons {scope : Scope} {stratum : Stratum} {tokens : List Token} {tree : Expression}
      {strata : List Stratum} {parts : List (List Token)} {trees : List Expression}
      (h : Derives scope stratum tokens tree) (hrest : DerivesEach scope strata parts trees) :
      DerivesEach scope (stratum :: strata) (tokens :: parts) (tree :: trees)

end

/-- The expression is derived from the stratum, as it is written (`Expression.tokens`). -/
def DerivesFrom (scope : Scope) (stratum : Stratum) (expression : Expression) : Prop :=
  Derives scope stratum expression.tokens expression

mutual

theorem Derives.tokens_eq {scope : Scope} {stratum : Stratum} {tokens : List Token}
    {tree : Expression} : Derives scope stratum tokens tree → tokens = tree.tokens
  | .unit _ hnext => hnext.tokens_eq
  | .form _ hoperands _ => by rw [Expression.tokens, tokensOfEach_eq, hoperands.parts_eq]

theorem DerivesEach.parts_eq {scope : Scope} {strata : List Stratum} {parts : List (List Token)}
    {trees : List Expression} :
    DerivesEach scope strata parts trees → parts = trees.map Expression.tokens
  | .nil => rfl
  | .cons h hrest => by rw [List.map_cons, ← h.tokens_eq, ← hrest.parts_eq]

end

/-- A tree is derived only as it is written, so `DerivesFrom` loses nothing against `Derives`. -/
theorem derives_iff {scope : Scope} {stratum : Stratum} {tokens : List Token} {tree : Expression} :
    Derives scope stratum tokens tree ↔ tokens = tree.tokens ∧ tree.DerivesFrom scope stratum := by
  constructor
  · intro h
    have htokens := h.tokens_eq
    exact ⟨htokens, by rwa [htokens] at h⟩
  · rintro ⟨rfl, h⟩
    exact h

theorem derivesEach_iff {scope : Scope} {strata : List Stratum} {trees : List Expression} :
    DerivesEach scope strata (trees.map Expression.tokens) trees ↔
      List.Forall₂ (DerivesFrom scope) strata trees := by
  constructor
  · -- On the trees, since `trees.map tokens` is no variable to induct on `DerivesEach` by.
    intro h
    induction trees generalizing strata with
    | nil => cases h; exact .nil
    | cons tree rest ih =>
      cases h with
      | cons htree hrest => exact .cons htree (ih hrest)
  · intro h
    induction h with
    | nil => exact .nil
    | cons htree _ ih => exact .cons htree ih

/-- A stratum that `Reaches` another derives what that one derives. -/
theorem DerivesFrom.of_reaches {expression : Expression} {scope : Scope} {stratum next : Stratum}
    (h : expression.DerivesFrom scope next) (hreaches : stratum.Reaches next) :
    expression.DerivesFrom scope stratum := by
  induction hreaches using Relation.ReflTransGen.head_induction_on with
  | refl => exact h
  | head hunit _ ih => exact .unit hunit ih

/-- The expression's form has a production here, `Form.Produces`, and the operands are what that
asks for. -/
def ProducedBy (scope : Scope) (stratum : Stratum) (strata : List Stratum)
    (expression : Expression) : Prop :=
  expression.form.Produces scope stratum strata ∧
    List.Forall₂ (DerivesFrom (expression.form.inside scope)) strata expression.operands ∧
      expression.form.Admits (expression.operands.map tokens)

theorem Derives.produced {scope : Scope} {stratum : Stratum} {tokens : List Token}
    {tree : Expression} : Derives scope stratum tokens tree →
      ∃ produced strata, stratum.Reaches produced ∧ tree.ProducedBy scope produced strata
  | .unit hunit hnext => by
    obtain ⟨produced, strata, hreaches, hproduced⟩ := hnext.produced
    exact ⟨produced, strata, .head hunit hreaches, hproduced⟩
  | .form hform hoperands hparts => by
    obtain rfl := hoperands.parts_eq
    exact ⟨_, _, .refl, hform, derivesEach_iff.mp hoperands, hparts⟩

/-- An expression is derived from the strata that lead to one where it is `ProducedBy` a production
for its form.  Every step along a `Derives` is thereby done with: what follows only looks at the
operands. -/
theorem derivesFrom_iff {expression : Expression} {scope : Scope} {stratum : Stratum} :
    expression.DerivesFrom scope stratum ↔ ∃ produced strata,
      stratum.Reaches produced ∧ expression.ProducedBy scope produced strata := by
  constructor
  · exact Derives.produced
  · rintro ⟨produced, strata, hreaches, hform, hoperands, hparts⟩
    cases expression with
    | mk form operands =>
      -- `Derives.form` speaks of the tokens of a `fill`, which is what `tokens` unfolds to.
      have hproduced : (mk form operands).DerivesFrom scope produced := by
        unfold DerivesFrom
        rw [tokens, tokensOfEach_eq]
        exact .form hform (derivesEach_iff.mpr hoperands) hparts
      exact hproduced.of_reaches hreaches

theorem fill_ne_nil {places : List (Option Token)} {token : Token} (h : some token ∈ places)
    (operands : List (List Token)) : fill places operands ≠ [] := by
  induction places generalizing operands with
  | nil => simp at h
  | cons place places ih =>
    cases place with
    | some first => simp [fill]
    | none =>
      -- A place may be filled with nothing, so the token is found among those behind it.
      have hrest : some token ∈ places := by simpa using h
      cases operands with
      | nil => simpa [fill] using ih hrest []
      | cons operand operands => simp [fill, ih hrest operands]

/-- No expression is written with nothing, as every form has a token (`Produces.exists_token`). -/
theorem DerivesFrom.tokens_ne_nil {expression : Expression} {scope : Scope} {stratum : Stratum}
    (h : expression.DerivesFrom scope stratum) : expression.tokens ≠ [] := by
  obtain ⟨_, _, _, hform, _⟩ := derivesFrom_iff.mp h
  obtain ⟨_, htoken⟩ := hform.exists_token
  cases expression with
  | mk form operands =>
    rw [tokens]
    exact fill_ne_nil htoken _

/-! ### Contexts -/

/-- The tokens of a form up to the first place that no operand is left for. -/
def fillBefore : List (Option Token) → List (List Token) → List Token
  | [], _ => []
  | some token :: places, operands => token :: fillBefore places operands
  | none :: _, [] => []
  | none :: places, operand :: operands => operand ++ fillBefore places operands

/-- What follows the place with this `number`. -/
def placesAfter : List (Option Token) → Nat → List (Option Token)
  | [], _ => []
  | some _ :: places, number => placesAfter places number
  | none :: places, 0 => places
  | none :: places, number + 1 => placesAfter places number

/-- `fill` splits at the place of an operand into `fillBefore` and what `placesAfter` leaves. -/
theorem fill_append_cons (places : List (Option Token)) (before : List (List Token))
    (operand : List Token) (after : List (List Token)) (h : before.length < places.count none) :
    fill places (before ++ operand :: after) =
      fillBefore places before ++ operand ++ fill (placesAfter places before.length) after := by
  induction places generalizing before with
  | nil => simp at h
  | cons place places ih =>
    cases place with
    | some token =>
      rw [List.count_cons_of_ne (by simp)] at h
      rw [fill, ih before h, fillBefore, placesAfter]
      simp
    | none =>
      rw [List.count_cons_self] at h
      cases before with
      | nil => simp [fill, fillBefore, placesAfter]
      | cons first before =>
        -- The place is taken by an operand in front, and the count goes down with it.
        rw [List.length_cons] at h
        rw [List.cons_append, fill, ih before (by omega), fillBefore, List.length_cons, placesAfter]
        simp

/-- An expression with one operand left out, to be put in by `Frame.plug`. -/
structure Frame where
  form : Form
  /-- The operands before the one left out. -/
  before : List Expression
  /-- The operands after the one left out. -/
  after : List Expression

namespace Frame

/-- The expression with the operand put in. -/
def plug (frame : Frame) (inner : Expression) : Expression :=
  Expression.mk frame.form (frame.before ++ inner :: frame.after)

/-- The tokens before the operand, those of the operands in `before` among them. -/
def tokensBefore (frame : Frame) : List Token :=
  fillBefore frame.form.places (frame.before.map Expression.tokens)

/-- The tokens after the operand, those of the operands in `after` among them. -/
def tokensAfter (frame : Frame) : List Token :=
  fill (placesAfter frame.form.places frame.before.length) (frame.after.map Expression.tokens)

/-- **What a frame asks of its operand.**  It has to be derived, in the scope of the frame's form,
from the stratum that a production for the frame gives its place; and it may not begin with a brace
if it is the body of an arrow function. -/
theorem derivesFrom_plug_iff {frame : Frame} {inner : Expression} {scope : Scope}
    {stratum : Stratum} :
    (frame.plug inner).DerivesFrom scope stratum ↔ ∃ produced before place after,
      stratum.Reaches produced ∧
        frame.form.Produces scope produced (before ++ place :: after) ∧
        List.Forall₂ (DerivesFrom (frame.form.inside scope)) before frame.before ∧
        inner.DerivesFrom (frame.form.inside scope) place ∧
        List.Forall₂ (DerivesFrom (frame.form.inside scope)) after frame.after ∧
        frame.form.Admits (frame.before.map tokens ++ frame.after.map tokens) ∧
        (frame.form.isArrow = true → inner.tokens.head? ≠ some openingBrace) := by
  unfold plug
  rw [derivesFrom_iff]
  unfold ProducedBy
  rw [form, operands, List.map_append, List.map_cons, Form.admits_append_cons]
  constructor
  · -- The strata are cut where the operands are: at the length of `frame.before`.
    rintro ⟨produced, strata, hreaches, hform, hoperands, hparts, hinner⟩
    have hbefore := List.forall₂_take_append strata frame.before _ hoperands
    have hrest := List.forall₂_drop_append strata frame.before _ hoperands
    obtain ⟨place, after, hplace, hafter, hstrata⟩ := List.forall₂_cons_right_iff.mp hrest
    rw [← List.take_append_drop frame.before.length strata, hstrata] at hform
    exact ⟨produced, _, place, after, hreaches, hform, hbefore, hplace, hafter, hparts, hinner⟩
  · rintro ⟨produced, before, place, after, hreaches, hform, hbefore, hplace, hafter, hparts,
      hinner⟩
    have hoperands := List.rel_append hbefore (.cons hplace hafter)
    exact ⟨produced, _, hreaches, hform, hoperands, hparts, hinner⟩

/-- A derivable expression has a derivable operand, in the scope of the form (`Form.inside`). -/
theorem derivesFrom_of_plug {frame : Frame} {inner : Expression} {scope : Scope}
    {stratum : Stratum} (h : (frame.plug inner).DerivesFrom scope stratum) :
    ∃ place, inner.DerivesFrom (frame.form.inside scope) place := by
  obtain ⟨_, _, place, _, _, _, _, hinner, _⟩ := derivesFrom_plug_iff.mp h
  exact ⟨place, hinner⟩

/-- A frame stays derivable around another operand (`other`), when that one is derived from the
stratum that the frame has for the place.  The hypothesis ranges over all productions for the
frame's form: which of them derives the expression is not known outside. -/
theorem derivesFrom_plug_mono {frame : Frame} {inner other : Expression} {scope : Scope}
    {stratum : Stratum}
    (hother : ∀ produced before place after,
      frame.form.Produces scope produced (before ++ place :: after) →
      before.length = frame.before.length →
      inner.DerivesFrom (frame.form.inside scope) place →
      other.DerivesFrom (frame.form.inside scope) place)
    (hbrace : frame.form.isArrow = true → other.tokens.head? ≠ some openingBrace)
    (h : (frame.plug inner).DerivesFrom scope stratum) :
    (frame.plug other).DerivesFrom scope stratum := by
  rw [derivesFrom_plug_iff] at h ⊢
  obtain ⟨produced, before, place, after, hreaches, hform, hbefore, hinner, hafter, hparts, _⟩ := h
  have hplace := hother produced before place after hform hbefore.length_eq hinner
  exact ⟨produced, before, place, after, hreaches, hform, hbefore, hplace, hafter, hparts, hbrace⟩

theorem tokens_plug {frame : Frame} {inner : Expression} {scope : Scope} {stratum : Stratum}
    (h : (frame.plug inner).DerivesFrom scope stratum) :
    (frame.plug inner).tokens = frame.tokensBefore ++ inner.tokens ++ frame.tokensAfter := by
  -- Only in a derivable frame are there as many places as operands, so that `inner` has one.
  obtain ⟨_, _, _, _, _, hform, hbefore, _⟩ := derivesFrom_plug_iff.mp h
  have hplaces := hform.count_places
  have hlength := hbefore.length_eq
  unfold plug tokensBefore tokensAfter
  rw [Expression.tokens, tokensOfEach_eq, List.map_append, List.map_cons, fill_append_cons,
    List.length_map]
  rw [hplaces, List.length_map, List.length_append, List.length_cons]
  omega

/-- The first token is that of the operand unless `tokensBefore` has one before it. -/
theorem head?_plug {frame : Frame} {inner : Expression} {scope : Scope} {stratum : Stratum}
    (h : (frame.plug inner).DerivesFrom scope stratum) :
    (frame.plug inner).tokens.head? = frame.tokensBefore.head?.or inner.tokens.head? := by
  obtain ⟨_, hinner⟩ := derivesFrom_of_plug h
  obtain ⟨first, rest, hfirst⟩ := List.exists_cons_of_ne_nil hinner.tokens_ne_nil
  rw [tokens_plug h, List.append_assoc, List.head?_append, hfirst]
  rfl

end Frame

/-- An expression with a place left out at any depth: the frames around it, the innermost first. -/
abbrev Context := List Frame

namespace Context

/-- The expression with another put in, from the innermost frame outwards (`Frame.plug`). -/
def plug : Context → Expression → Expression
  | [], inner => inner
  | frame :: outer, inner => plug outer (frame.plug inner)

/-- The tokens before the place. -/
def tokensBefore : Context → List Token
  | [] => []
  | frame :: outer => tokensBefore outer ++ frame.tokensBefore

/-- The tokens after the place. -/
def tokensAfter : Context → List Token
  | [] => []
  | frame :: outer => frame.tokensAfter ++ tokensAfter outer

/-- The scope of the place, when the whole expression stands in `scope`. -/
def inside (scope : Scope) : Context → Scope
  | [] => scope
  | frame :: outer => frame.form.inside (inside scope outer)

/-- The place is at the left edge of an arrow function's body. -/
def opensBody : Context → Prop
  | [] => False
  | frame :: outer => frame.form.isArrow = true ∨ frame.tokensBefore = [] ∧ opensBody outer

/-- What stands in a derivable expression is derivable, in the scope of its place (`inside`). -/
theorem derivesFrom_of_plug (context : Context) {inner : Expression} {scope : Scope}
    {stratum : Stratum} (h : (context.plug inner).DerivesFrom scope stratum) :
    ∃ place, inner.DerivesFrom (context.inside scope) place := by
  -- The innermost frame comes first, so the induction takes it as part of what is put in.
  induction context generalizing inner with
  | nil => exact ⟨stratum, h⟩
  | cons frame outer ih =>
    obtain ⟨_, hframe⟩ := ih h
    exact Frame.derivesFrom_of_plug hframe

/-- The tokens (`Expression.tokens`) of a derivable expression are those around the place and those
in it. -/
theorem tokens_plug (context : Context) {inner : Expression} {scope : Scope} {stratum : Stratum}
    (h : (context.plug inner).DerivesFrom scope stratum) :
    (context.plug inner).tokens =
      context.tokensBefore ++ inner.tokens ++ context.tokensAfter := by
  induction context generalizing inner with
  | nil => simp [plug, tokensBefore, tokensAfter]
  | cons frame outer ih =>
    obtain ⟨_, hframe⟩ := derivesFrom_of_plug outer h
    rw [plug, ih h, Frame.tokens_plug hframe, tokensBefore, tokensAfter]
    simp

/-- What stands at the left edge of an arrow function's body (`opensBody`) does not begin with a
brace. -/
theorem head?_ne_of_opensBody (context : Context) {inner : Expression} {scope : Scope}
    {stratum : Stratum} (h : (context.plug inner).DerivesFrom scope stratum)
    (hopens : context.opensBody) : inner.tokens.head? ≠ some openingBrace := by
  induction context generalizing inner with
  | nil => exact hopens.elim
  | cons frame outer ih =>
    obtain ⟨_, hframe⟩ := derivesFrom_of_plug outer h
    rcases hopens with harrow | ⟨hbefore, houter⟩
    · -- The place is the body itself.
      obtain ⟨_, _, _, _, _, _, _, _, _, _, hinner⟩ := Frame.derivesFrom_plug_iff.mp hframe
      exact hinner harrow
    · -- The frame begins with the place, and stands at the edge in its turn.
      have hhead := ih h houter
      rwa [Frame.head?_plug hframe, hbefore] at hhead

/-- A frame at the left edge of an arrow function's body begins with no brace around another operand
either, unless that operand is at the edge and does. -/
theorem head?_plug_ne_of_opensBody (outer : Context) {frame : Frame} {inner other : Expression}
    {scope : Scope} {stratum place : Stratum}
    (h : (outer.plug (frame.plug inner)).DerivesFrom scope stratum)
    (hother : (frame.plug other).DerivesFrom (outer.inside scope) place)
    (hbrace : opensBody (frame :: outer) → other.tokens.head? ≠ some openingBrace)
    (houter : outer.opensBody) : (frame.plug other).tokens.head? ≠ some openingBrace := by
  rw [Frame.head?_plug hother]
  cases htokens : frame.tokensBefore with
  | nil =>
    rw [List.head?_nil, Option.none_or]
    exact hbrace (Or.inr ⟨htokens, houter⟩)
  | cons first rest =>
    -- The frame's own first token was there before, and was no brace.
    obtain ⟨_, hframe⟩ := derivesFrom_of_plug outer h
    have hhead := head?_ne_of_opensBody outer h houter
    rwa [Frame.head?_plug hframe, htokens] at hhead

/-- **Exchange.**  An expression stays derivable when what stands in it gives way to one that is
derived wherever the other was, and that does not begin with a brace at the left edge of an arrow
function's body. -/
theorem derivesFrom_plug_mono (context : Context) {inner other : Expression} {scope : Scope}
    {stratum : Stratum}
    (hother : ∀ place, inner.DerivesFrom (context.inside scope) place →
      other.DerivesFrom (context.inside scope) place)
    (hbrace : context.opensBody → other.tokens.head? ≠ some openingBrace)
    (h : (context.plug inner).DerivesFrom scope stratum) :
    (context.plug other).DerivesFrom scope stratum := by
  induction context generalizing inner other with
  | nil => exact hother stratum h
  | cons frame outer ih =>
    -- What is exchanged one frame further out is the frame, around either operand.
    have hexchange : ∀ place, (frame.plug inner).DerivesFrom (inside scope outer) place →
        (frame.plug other).DerivesFrom (inside scope outer) place := by
      intro place hframe
      refine Frame.derivesFrom_plug_mono ?_ (fun harrow => hbrace (Or.inl harrow)) hframe
      exact fun _ _ place _ _ _ => hother place
    obtain ⟨place, hframe⟩ := derivesFrom_of_plug outer h
    exact ih hexchange (head?_plug_ne_of_opensBody outer h (hexchange place hframe) hbrace) h

end Context

end Expression

end SyntaxGraft
