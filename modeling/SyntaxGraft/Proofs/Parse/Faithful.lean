import SyntaxGraft.Proofs.Parse.Numbering
import SyntaxGraft.Proofs.Tree.FieldList
/-!
# A conversion that loses nothing

Children and tokens come into the fields of a node one after the other, in three ways, and some of
these ways drop or split what is there.  They do not, when the fields of a node keep apart
(`ParseTree.FieldsApart`): tokens and nodes have different fields, and fields of the grammar differ
from those for unnamed children and for comments.

Then the fields hold, at every moment, exactly the children so far.  This is the invariant
`Parse.Filled`; a child keeps it (`Parse.Filled.addChild`), and so do a token and the scalars of the
node's own text (`Parse.Filled.setScalar`).  From `Parse.filled_nodeOf` a conversion gives one node
for each named tree, in its place (`Tree.parse_mirrors`).
-/

namespace SyntaxGraft

namespace Parse

/-! ### Where a child goes -/

/-- The field of its parent, a node of this `kind`, that a named child goes to. -/
def childField (kind : String) (row : Row) : String :=
  if row.production = "comment" then Kind.commentsField
  else row.field.getD (Kind.unnamedField kind)

/-- The child is an element of a sequence, even if it is the only one. -/
def joinsSequence (kind : String) (row : Row) : Bool :=
  row.production = "comment" ||
    match row.field with
    | some name => Kind.isStatementSlot kind name
    | none => Kind.unnamedAreSequence kind

/-- The names that the children and tokens of a node use, in order. -/
def usedNames (kind : String) (trees : List ParseTree) : List String :=
  trees.filterMap fun tree =>
    if isNamed tree then some (childField kind tree.row) else tree.row.field

/-- The names of the scalars that a node gets from its own text (`Parse.attachScalars`). -/
def scalarNames (production : String) : List String :=
  if Kind.isIdentifierProduction production then ["name"]
  else if ["number", "string"].contains production then ["value", "raw"]
  else if ["true", "false", "null"].contains production then ["value"]
  else []

/-- A leaf of any other production gets its text. -/
def ownNames (production : String) (isLeaf : Bool) : List String :=
  if isLeaf ∧ scalarNames production = [] then ["raw"] else scalarNames production

/-- The branches of `addChild` differ in two things: `childField` and `joinsSequence`. -/
theorem addChild_eq (kind : String) (row : Row) (child : Node) (fields : List Field) :
    addChild kind row child fields =
      if joinsSequence kind row then Fields.addToSequence (childField kind row) child fields
      else Fields.addNode (childField kind row) child fields := by
  unfold addChild joinsSequence childField
  by_cases hcomment : row.production = "comment"
  · simp [hcomment]
  · cases hfield : row.field <;> simp [hcomment]

/-- `attachScalars` sets the scalars of a node's own text, under `ownNames`, one after the other. -/
theorem exists_attachScalars_eq (row : Row) (text : Text) (isLeaf : Bool) (fields : List Field) :
    ∃ scalars : List (String × Scalar),
      scalars.map Prod.fst = ownNames row.production isLeaf ∧
      attachScalars row text isLeaf fields
        = scalars.foldl (fun fields scalar => Fields.setScalar scalar.1 scalar.2 fields)
            fields := by
  unfold attachScalars
  dsimp only
  by_cases hidentifier : Kind.isIdentifierProduction row.production = true
  · rw [if_pos hidentifier]
    exact ⟨[("name", _)], by simp [ownNames, scalarNames, hidentifier], rfl⟩
  · have hplain : scalarNames row.production
        = if ["number", "string"].contains row.production then ["value", "raw"]
          else if ["true", "false", "null"].contains row.production then ["value"] else [] :=
      if_neg hidentifier
    rw [if_neg hidentifier]
    split
    · next h => exact ⟨[("value", _), ("raw", _)], by rw [ownNames, hplain, h]; simp, rfl⟩
    · next h => exact ⟨[("value", _), ("raw", _)], by rw [ownNames, hplain, h]; simp, rfl⟩
    · next h => exact ⟨[("value", _)], by rw [ownNames, hplain, h]; simp, rfl⟩
    · next h => exact ⟨[("value", _)], by rw [ownNames, hplain, h]; simp, rfl⟩
    · next h => exact ⟨[("value", _)], by rw [ownNames, hplain, h]; simp, rfl⟩
    · -- Only leaves of the other productions have a scalar.
      next hnumber hstring htrue hfalse hnull =>
      have hnone : scalarNames row.production = [] := by
        rw [hplain, if_neg (by simpa using ⟨hnumber, hstring⟩),
          if_neg (by simpa using ⟨htrue, hfalse, hnull⟩)]
      refine ⟨if isLeaf then [("raw", .str (String.ofList (row.textIn text)))] else [], ?_, ?_⟩
      · rw [ownNames, hnone]
        cases isLeaf <;> simp
      · cases isLeaf <;> rfl

/-! ### The fields so far -/

/-- Those among some numbered children that go to the field `name` (`childField`). -/
def goingTo (kind name : String) (children : List (ParseTree × Nat)) : List (ParseTree × Nat) :=
  children.filter fun child => childField kind child.1.row = name

/-- The fields hold exactly the given children, after the given names were used. -/
structure Filled (text : Text) (kind : String) (children : List (ParseTree × Nat))
    (used : List String) (fields : List Field) : Prop where
  /-- The names stand in the order in which they were first used. -/
  names : fields.map Field.name = used.eraseDups
  distinct : (fields.map Field.name).Nodup
  /-- No child is lost, and none is there twice. -/
  complete : (Fields.children fields).Perm (children.map (nodeOf text))
  /-- Every child is in its field, in order. -/
  placed : ∀ name, Value.childrenOf (Fields.get? name fields)
    = (goingTo kind name children).map (nodeOf text)
  sequences : ∀ child ∈ children, joinsSequence kind child.1.row = true →
    ∃ nodes, Fields.get? (childField kind child.1.row) fields = some (.nodes nodes)

/-- `eraseDups` keeps first occurrences, so a name at the end changes it only if it is new. -/
theorem eraseDups_concat (names : List String) (name : String) :
    (names ++ [name]).eraseDups
      = if name ∈ names.eraseDups then names.eraseDups else names.eraseDups ++ [name] := by
  rw [List.eraseDups_append]
  by_cases h : name ∈ names
  · rw [if_pos (List.mem_eraseDups.mpr h)]
    simp [List.removeAll, h]
  · rw [if_neg fun hmem => h (List.mem_eraseDups.mp hmem)]
    simp [List.removeAll, h, List.eraseDups_cons]

namespace Filled

variable {text : Text} {kind : String} {children : List (ParseTree × Nat)} {used : List String}
  {fields : List Field}

theorem nil (text : Text) (kind : String) : Filled text kind [] [] [] where
  names := rfl
  distinct := List.nodup_nil
  complete := List.Perm.refl _
  placed _ := rfl
  sequences _ hchild := by cases hchild

theorem mem_used (h : Filled text kind children used fields) {name : String} {value : Value}
    (hvalue : Fields.get? name fields = some value) : name ∈ used := by
  rw [← List.mem_eraseDups, ← h.names]
  by_contra hmem
  rw [Fields.get?_eq_none_iff.mpr hmem] at hvalue
  cases hvalue

/-- `Filled` is kept by a scalar under a name that no child goes to. -/
theorem setScalar (h : Filled text kind children used fields) {name : String} (scalar : Scalar)
    (hname : ∀ child ∈ children, childField kind child.1.row ≠ name) :
    Filled text kind children (used ++ [name]) (Fields.setScalar name scalar fields) := by
  have hnone : goingTo kind name children = [] :=
    List.filter_eq_nil_iff.mpr fun child hchild => by simpa using hname child hchild
  have hempty : Value.childrenOf (Fields.get? name fields) = [] := by
    rw [h.placed, hnone, List.map_nil]
  refine ⟨?_, ?_, ?_, ?_, ?_⟩
  · rw [Fields.setScalar_eq_alter, Fields.map_name_alter, h.names, eraseDups_concat]
  · rw [Fields.setScalar_eq_alter]
    exact Fields.nodup_alter _ h.distinct
  · rw [Fields.children_setScalar_of_childrenOf scalar hempty]
    exact h.complete
  · intro other
    rw [Fields.setScalar_eq_alter]
    by_cases hother : other = name
    · rw [hother, Fields.get?_alter_self, hnone]
      rfl
    · rw [Fields.get?_alter_of_ne hother, h.placed]
  · intro child hchild hjoins
    obtain ⟨nodes, hnodes⟩ := h.sequences child hchild hjoins
    rw [Fields.setScalar_eq_alter, Fields.get?_alter_of_ne (hname child hchild)]
    exact ⟨nodes, hnodes⟩

theorem setScalars (h : Filled text kind children used fields) (scalars : List (String × Scalar))
    (hnames : ∀ scalar ∈ scalars, ∀ child ∈ children, childField kind child.1.row ≠ scalar.1) :
    Filled text kind children (used ++ scalars.map Prod.fst)
      (scalars.foldl (fun fields scalar => Fields.setScalar scalar.1 scalar.2 fields) fields) := by
  induction scalars generalizing used fields with
  | nil => simpa using h
  | cons scalar rest ih =>
    obtain ⟨hfirst, hrest⟩ := List.forall_mem_cons.mp hnames
    have hfilled := ih (h.setScalar scalar.2 hfirst) hrest
    rwa [List.append_assoc] at hfilled

/-- `Filled` is kept by one more child, when all that go to its field join it in the same way.  A
name in use has to be that of a child: a scalar would be pushed out. -/
theorem addChild (h : Filled text kind children used fields) (new : ParseTree × Nat)
    (halike : ∀ child ∈ children, childField kind child.1.row = childField kind new.1.row →
      joinsSequence kind child.1.row = joinsSequence kind new.1.row)
    (hused : childField kind new.1.row ∈ used →
      ∃ child ∈ children, childField kind child.1.row = childField kind new.1.row) :
    Filled text kind (children ++ [new]) (used ++ [childField kind new.1.row])
      (Parse.addChild kind new.1.row (nodeOf text new) fields) := by
  -- What is in the field already is a sequence, if the child is to join one.
  have hsequence : joinsSequence kind new.1.row = true → ∀ value,
      Fields.get? (childField kind new.1.row) fields = some value →
      ∃ nodes, value = .nodes nodes := by
    intro hjoins value hvalue
    obtain ⟨child, hchild, hsame⟩ := hused (h.mem_used hvalue)
    obtain ⟨nodes, hnodes⟩ := h.sequences child hchild ((halike child hchild hsame).trans hjoins)
    rw [hsame, hvalue] at hnodes
    exact ⟨nodes, Option.some.inj hnodes⟩
  have halter : Parse.addChild kind new.1.row (nodeOf text new) fields
      = Fields.alter (childField kind new.1.row)
          (Value.extended (joinsSequence kind new.1.row) (nodeOf text new)) fields := by
    rw [addChild_eq]
    by_cases hjoins : joinsSequence kind new.1.row = true
    · rw [if_pos hjoins, Fields.addToSequence_eq_alter _ (hsequence hjoins), hjoins]
    · rw [if_neg hjoins, Fields.addNode_eq_alter, Bool.eq_false_iff.mpr hjoins]
  -- Either way of joining alters one field, and `sequences` is what the next child relies on.
  refine ⟨?_, ?_, ?_, ?_, ?_⟩
  · rw [halter, Fields.map_name_alter, h.names, eraseDups_concat]
  · rw [halter]
    exact Fields.nodup_alter _ h.distinct
  · rw [List.map_append, List.map_singleton]
    exact (children_addChild _ _ _ _).trans
      ((h.complete.cons _).trans (List.perm_append_singleton _ _).symm)
  · intro name
    rw [halter, goingTo, List.filter_append, List.map_append]
    by_cases hname : name = childField kind new.1.row
    · rw [hname, Fields.get?_alter_self, Value.childrenOf, Value.children_extended, h.placed]
      simp [goingTo]
    · rw [Fields.get?_alter_of_ne hname, h.placed,
        List.filter_singleton, decide_eq_false (Ne.symm hname)]
      simp [goingTo]
  · intro child hchild hjoins
    rw [halter]
    by_cases hname : childField kind child.1.row = childField kind new.1.row
    · have hnew : joinsSequence kind new.1.row = true := by
        rcases List.mem_append.mp hchild with hold | hlast
        · rw [← halike child hold hname, hjoins]
        · rw [← List.mem_singleton.mp hlast, hjoins]
      rw [hname, Fields.get?_alter_self, hnew]
      cases hvalue : Fields.get? (childField kind new.1.row) fields with
      | none => exact ⟨_, rfl⟩
      | some value =>
        obtain ⟨nodes, rfl⟩ := hsequence hnew value hvalue
        exact ⟨_, rfl⟩
    · have hold : child ∈ children := by
        rcases List.mem_append.mp hchild with hold | hlast
        · exact hold
        · rw [List.mem_singleton.mp hlast] at hname
          exact absurd rfl hname
      rw [Fields.get?_alter_of_ne hname]
      exact h.sequences child hold hjoins

end Filled

end Parse

/-! ### Fields that keep apart -/

namespace ParseTree

/-- The kind of the node that the tree becomes (`Kind.ofProduction`). -/
def kind (tree : ParseTree) : String :=
  Kind.ofProduction tree.row.production

def isComment (tree : ParseTree) : Bool :=
  tree.row.production = "comment"

/-- The fields of the grammar that tokens stand in. -/
def tokenFields (tree : ParseTree) : List String :=
  (tree.children.filter fun child => !Parse.isNamed child).filterMap fun child => child.row.field

/-- The fields of the grammar that named children stand in; for comments they do not matter. -/
def childFields (tree : ParseTree) : List String :=
  (tree.children.filter fun child => Parse.isNamed child && !child.isComment).filterMap
    fun child => child.row.field

/-- The fields of a node do not run into each other: no name is used in two ways (`fieldNames`). -/
structure FieldsApart (tree : ParseTree) : Prop where
  /-- No field has both a token and a named child. -/
  tokens : ∀ name ∈ tree.tokenFields, name ∉ tree.childFields
  /-- No field of the grammar is the one for the children without a field. -/
  unnamed : (∃ child ∈ tree.children, Parse.isNamed child = true ∧ child.isComment = false ∧
      child.row.field = none) →
    Kind.unnamedField tree.kind ∉ tree.tokenFields ++ tree.childFields
  /-- Nor the one for comments. -/
  comments : (∃ child ∈ tree.children, Parse.isNamed child = true ∧ child.isComment = true) →
    Kind.commentsField ∉ tree.tokenFields ++ tree.childFields
  /-- No child is where the scalars of the node's own text go. -/
  scalars : ∀ name ∈ Parse.scalarNames tree.row.production, name ∉ tree.childFields

theorem fieldsApart_iff {tree : ParseTree} :
    tree.FieldsApart ↔
      (∀ name ∈ tree.tokenFields, name ∉ tree.childFields) ∧
      ((∃ child ∈ tree.children, Parse.isNamed child = true ∧ child.isComment = false ∧
          child.row.field = none) →
        Kind.unnamedField tree.kind ∉ tree.tokenFields ++ tree.childFields) ∧
      ((∃ child ∈ tree.children, Parse.isNamed child = true ∧ child.isComment = true) →
        Kind.commentsField ∉ tree.tokenFields ++ tree.childFields) ∧
      ∀ name ∈ Parse.scalarNames tree.row.production, name ∉ tree.childFields :=
  ⟨fun h => ⟨h.tokens, h.unnamed, h.comments, h.scalars⟩,
    fun ⟨tokens, unnamed, comments, scalars⟩ => ⟨tokens, unnamed, comments, scalars⟩⟩

instance (tree : ParseTree) : Decidable tree.FieldsApart :=
  decidable_of_iff _ fieldsApart_iff.symm

theorem mem_tokenFields {tree token : ParseTree} {name : String} (h : token ∈ tree.children)
    (htoken : Parse.isNamed token = false) (hfield : token.row.field = some name) :
    name ∈ tree.tokenFields :=
  List.mem_filterMap.mpr ⟨token, List.mem_filter.mpr ⟨h, by simp [htoken]⟩, hfield⟩

/-- Where a named child goes: to `commentsField`, to its own field or to `unnamedField`. -/
theorem childField_cases {tree child : ParseTree} (h : child ∈ tree.children)
    (hnamed : Parse.isNamed child = true) :
    (child.isComment = true ∧ Parse.childField tree.kind child.row = Kind.commentsField) ∨
      (child.isComment = false ∧ ∃ name ∈ tree.childFields, child.row.field = some name ∧
        Parse.childField tree.kind child.row = name) ∨
      (child.isComment = false ∧ child.row.field = none ∧
        Parse.childField tree.kind child.row = Kind.unnamedField tree.kind) := by
  unfold Parse.childField
  by_cases hcomment : child.row.production = "comment"
  · exact Or.inl ⟨decide_eq_true hcomment, if_pos hcomment⟩
  · have hnot : child.isComment = false := decide_eq_false hcomment
    rw [if_neg hcomment]
    cases hfield : child.row.field with
    | none => exact Or.inr (Or.inr ⟨hnot, rfl, Option.getD_none⟩)
    | some name =>
      refine Or.inr (Or.inl ⟨hnot, name, ?_, rfl, Option.getD_some⟩)
      exact List.mem_filterMap.mpr
        ⟨child, List.mem_filter.mpr ⟨h, by rw [hnamed, hnot]; rfl⟩, hfield⟩

theorem unnamedField_mem (kind : String) :
    Kind.unnamedField kind ∈ [Kind.bodyField, Kind.expressionField, Kind.childrenField] := by
  unfold Kind.unnamedField
  split
  · simp
  · split <;> simp

theorem scalarNames_subset (production : String) :
    Parse.scalarNames production ⊆ ["name", "value", "raw"] := by
  unfold Parse.scalarNames
  split_ifs <;> simp

namespace FieldsApart

variable {tree child other token : ParseTree} {name : String}

/-- No child goes to the field of a token (`tokenFields`). -/
theorem childField_ne_token (apart : tree.FieldsApart) (htoken : name ∈ tree.tokenFields)
    (h : child ∈ tree.children) (hnamed : Parse.isNamed child = true) :
    Parse.childField tree.kind child.row ≠ name := by
  rintro rfl
  rcases childField_cases h hnamed with ⟨hcomment, hfield⟩ | ⟨-, name, hname, -, hfield⟩ |
    ⟨hcomment, hnone, hfield⟩
  · rw [hfield] at htoken
    exact apart.comments ⟨child, h, hnamed, hcomment⟩ (List.mem_append_left _ htoken)
  · rw [hfield] at htoken
    exact apart.tokens _ htoken hname
  · rw [hfield] at htoken
    exact apart.unnamed ⟨child, h, hnamed, hcomment, hnone⟩ (List.mem_append_left _ htoken)

/-- Nor to that of a scalar of the node's own text (`Parse.scalarNames`). -/
theorem childField_ne_scalar (apart : tree.FieldsApart)
    (hscalar : name ∈ Parse.scalarNames tree.row.production)
    (h : child ∈ tree.children) (hnamed : Parse.isNamed child = true) :
    Parse.childField tree.kind child.row ≠ name := by
  rintro rfl
  have hmem := scalarNames_subset _ hscalar
  rcases childField_cases h hnamed with ⟨-, hfield⟩ | ⟨-, own, hown, -, hfield⟩ | ⟨-, -, hfield⟩
  · rw [hfield] at hmem
    exact absurd hmem (by decide)
  · rw [hfield] at hscalar
    exact apart.scalars own hscalar hown
  · have hdisjoint : ∀ name ∈ [Kind.bodyField, Kind.expressionField, Kind.childrenField],
        name ∉ ["name", "value", "raw"] := by decide
    rw [hfield] at hmem
    exact hdisjoint _ (unnamedField_mem tree.kind) hmem

/-- Only comments go where a comment goes (`Parse.isComment`). -/
theorem isComment_of_childField_eq (apart : tree.FieldsApart) (h : child ∈ tree.children)
    (hnamed : Parse.isNamed child = true) (hcomment : child.isComment = true)
    (hother : other ∈ tree.children) (hnamedOther : Parse.isNamed other = true)
    (hsame : Parse.childField tree.kind other.row = Parse.childField tree.kind child.row) :
    other.isComment = true := by
  have hfield : Parse.childField tree.kind child.row = Kind.commentsField :=
    if_pos (of_decide_eq_true hcomment)
  rcases childField_cases hother hnamedOther with ⟨hyes, -⟩ | ⟨-, name, hname, -, hown⟩ |
    ⟨-, -, hunnamed⟩
  · exact hyes
  · rw [← hown, hsame, hfield] at hname
    exact absurd (List.mem_append_right _ hname) (apart.comments ⟨child, h, hnamed, hcomment⟩)
  · have hmem := unnamedField_mem tree.kind
    rw [← hunnamed, hsame, hfield] at hmem
    exact absurd hmem (by decide)

/-- Children that are no comments and go to one place (`childField`) have the same field in the
parse tree, or both have none. -/
theorem field_eq_of_childField_eq (apart : tree.FieldsApart) (h : child ∈ tree.children)
    (hnamed : Parse.isNamed child = true) (hcomment : child.isComment = false)
    (hother : other ∈ tree.children) (hnamedOther : Parse.isNamed other = true)
    (hcommentOther : other.isComment = false)
    (hsame : Parse.childField tree.kind child.row = Parse.childField tree.kind other.row) :
    child.row.field = other.row.field := by
  -- A field of its own for one and none for the other is what `apart.unnamed` excludes.
  rcases childField_cases h hnamed with ⟨hyes, -⟩ | ⟨-, name, hname, hfield, hown⟩ |
    ⟨-, hnone, hunnamed⟩
  · rw [hyes] at hcomment
    cases hcomment
  · rcases childField_cases hother hnamedOther with ⟨hyes, -⟩ | ⟨-, _, -, hfieldOther, hownOther⟩ |
      ⟨-, hnone, hunnamed⟩
    · rw [hyes] at hcommentOther
      cases hcommentOther
    · rw [hfield, hfieldOther, ← hown, hsame, hownOther]
    · rw [← hown, hsame, hunnamed] at hname
      exact absurd (List.mem_append_right _ hname)
        (apart.unnamed ⟨other, hother, hnamedOther, hcommentOther, hnone⟩)
  · rcases childField_cases hother hnamedOther with ⟨hyes, -⟩ | ⟨-, name, hname, -, hown⟩ |
      ⟨-, hnoneOther, -⟩
    · rw [hyes] at hcommentOther
      cases hcommentOther
    · rw [← hown, ← hsame, hunnamed] at hname
      exact absurd (List.mem_append_right _ hname)
        (apart.unnamed ⟨child, h, hnamed, hcomment, hnone⟩)
    · rw [hnone, hnoneOther]

/-- All children of a field join it in the same way: `joinsSequence` depends on the field and on
being a comment only. -/
theorem joinsSequence_eq (apart : tree.FieldsApart) (h : child ∈ tree.children)
    (hnamed : Parse.isNamed child = true) (hother : other ∈ tree.children)
    (hnamedOther : Parse.isNamed other = true)
    (hsame : Parse.childField tree.kind child.row = Parse.childField tree.kind other.row) :
    Parse.joinsSequence tree.kind child.row = Parse.joinsSequence tree.kind other.row := by
  have hcomments : child.isComment = other.isComment := by
    rw [Bool.eq_iff_iff]
    constructor
    · intro hcomment
      exact apart.isComment_of_childField_eq h hnamed hcomment hother hnamedOther hsame.symm
    · intro hcomment
      exact apart.isComment_of_childField_eq hother hnamedOther hcomment h hnamed hsame
  show (child.isComment || _) = (other.isComment || _)
  cases hcomment : other.isComment with
  | true => rw [hcomments, hcomment]; rfl
  | false =>
    have hfields := apart.field_eq_of_childField_eq h hnamed (hcomments.trans hcomment) hother
      hnamedOther hcomment hsame
    rw [hcomments, hcomment, hfields]

end FieldsApart

end ParseTree

/-! ### The fields of a node -/

namespace Parse

open ParseTree (namedTreesOfList)

variable {text : Text} {tree : ParseTree}

theorem usedNames_append (kind : String) (trees others : List ParseTree) :
    usedNames kind (trees ++ others) = usedNames kind trees ++ usedNames kind others :=
  List.filterMap_append

section Steps

variable {done : List ParseTree} {new : ParseTree} {start : Nat} {fields : List Field}

/-- The children that are `done` before a new one stand in the tree. -/
theorem mem_children_of_mem_numbered (hdone : ∀ child ∈ done, child ∈ tree.children)
    {child : ParseTree × Nat} (h : child ∈ numbered done start) :
    child.1 ∈ tree.children ∧ isNamed child.1 = true := by
  obtain ⟨hmem, hnamed⟩ := mem_of_mem_numbered h
  exact ⟨hdone child.1 hmem, hnamed⟩

/-- The step of `filled_convertChildren` for a named child. -/
theorem filled_concat_named (apart : tree.FieldsApart)
    (hdone : ∀ child ∈ done, child ∈ tree.children) (hnew : new ∈ tree.children)
    (hnamed : isNamed new = true)
    (h : Filled text tree.kind (numbered done start) (usedNames tree.kind done) fields) :
    Filled text tree.kind (numbered (done ++ [new]) start) (usedNames tree.kind (done ++ [new]))
      (addChild tree.kind new.row
        (nodeOf text (new, start + (namedTreesOfList done).length)) fields) := by
  have hnumbered : numbered (done ++ [new]) start
      = numbered done start ++ [(new, start + (namedTreesOfList done).length)] := by
    rw [numbered_append, numbered, if_pos hnamed]
    rfl
  have hnames : usedNames tree.kind (done ++ [new])
      = usedNames tree.kind done ++ [childField tree.kind new.row] := by
    rw [usedNames_append]
    simp [usedNames, hnamed]
  rw [hnumbered, hnames]
  apply h.addChild (new, start + (namedTreesOfList done).length)
  · intro child hchild hsame
    obtain ⟨hmem, hchildNamed⟩ := mem_children_of_mem_numbered hdone hchild
    exact apart.joinsSequence_eq hmem hchildNamed hnew hnamed hsame
  · -- A name in use is that of a child: no token has the name of one.
    intro hused
    obtain ⟨user, huser, hname⟩ := List.mem_filterMap.mp hused
    by_cases huserNamed : isNamed user = true
    · rw [if_pos huserNamed] at hname
      obtain ⟨number, hnumber⟩ := exists_mem_numbered huser huserNamed start
      exact ⟨(user, number), hnumber, Option.some.inj hname⟩
    · rw [if_neg huserNamed] at hname
      have htoken := ParseTree.mem_tokenFields (hdone user huser)
        (Bool.eq_false_iff.mpr huserNamed) hname
      exact absurd rfl (apart.childField_ne_token htoken hnew hnamed)

/-- The step of `filled_convertChildren` for a token. -/
theorem filled_concat_token (apart : tree.FieldsApart)
    (hdone : ∀ child ∈ done, child ∈ tree.children) (hnew : new ∈ tree.children)
    (htoken : isNamed new = false)
    (h : Filled text tree.kind (numbered done start) (usedNames tree.kind done) fields) :
    Filled text tree.kind (numbered (done ++ [new]) start) (usedNames tree.kind (done ++ [new]))
      (addToken new.row text fields) := by
  have hnumbered : numbered (done ++ [new]) start = numbered done start := by
    rw [numbered_append, numbered, if_neg (Bool.eq_false_iff.mp htoken), numbered, List.append_nil]
  rw [hnumbered, usedNames_append, addToken]
  cases hfield : new.row.field with
  | none =>
    have hnone : usedNames tree.kind [new] = [] := by simp [usedNames, htoken, hfield]
    rw [hnone, List.append_nil]
    exact h
  | some name =>
    have hone : usedNames tree.kind [new] = [name] := by simp [usedNames, htoken, hfield]
    rw [hone]
    apply h.setScalar
    intro child hchild
    obtain ⟨hmem, hchildNamed⟩ := mem_children_of_mem_numbered hdone hchild
    exact apart.childField_ne_token (ParseTree.mem_tokenFields hnew htoken hfield) hmem hchildNamed

end Steps

/-- The children come into the fields one after the other, and `Filled` holds of those so far. -/
theorem filled_convertChildren (apart : tree.FieldsApart) {done trees : List ParseTree}
    (hsplit : done ++ trees = tree.children) {start next : Nat}
    (hnext : next = start + (namedTreesOfList done).length) {fields : List Field}
    (h : Filled text tree.kind (numbered done start) (usedNames tree.kind done) fields) :
    Filled text tree.kind (numbered tree.children start) (usedNames tree.kind tree.children)
      (convertChildren text tree.kind trees fields next).1 := by
  -- On what is still to come; `done` grows at its end, as `Filled` has the children in order.
  induction trees generalizing done fields next with
  | nil =>
    rw [List.append_nil] at hsplit
    rw [← hsplit]
    exact h
  | cons new rest ih =>
    have hnew : new ∈ tree.children := by simp [← hsplit]
    have hdone : ∀ child ∈ done, child ∈ tree.children := fun child hchild =>
      hsplit ▸ List.mem_append_left _ hchild
    have hsplitNew : (done ++ [new]) ++ rest = tree.children := by
      rw [← hsplit, List.append_assoc, List.singleton_append]
    subst hnext
    rw [convertChildren]
    by_cases hnamed : isNamed new = true
    · rw [if_pos hnamed]
      refine ih hsplitNew ?_ (filled_concat_named apart hdone hnew hnamed h)
      show (convert text new _).2 = _
      rw [convert_snd, namedTreesOfList_append, List.length_append, namedTreesOfList,
        if_pos hnamed, namedTreesOfList, List.append_nil, Nat.add_assoc]
      rfl
    · rw [if_neg hnamed]
      refine ih hsplitNew ?_
        (filled_concat_token apart hdone hnew (Bool.eq_false_iff.mpr hnamed) h)
      rw [namedTreesOfList_append, namedTreesOfList, if_neg hnamed]
      simp [namedTreesOfList]

/-- The names that the fields of a node use, in order: those of its children and tokens, then those
of its own scalars. -/
def fieldNames (tree : ParseTree) : List String :=
  usedNames tree.kind tree.children
    ++ ownNames tree.row.production (!tree.children.any isNamed)

/-- **The fields of a node** are filled (`Filled`) with all its named children, and the scalars of
its own text take no place away. -/
theorem filled_nodeOf (apart : tree.FieldsApart) (text : Text) (next : Nat) :
    Filled text tree.kind (numbered tree.children (next + 1)) (fieldNames tree)
      (nodeOf text (tree, next)).fields := by
  obtain ⟨row, children⟩ := tree
  obtain ⟨scalars, hnames, hfields⟩ := exists_attachScalars_eq row text (!children.any isNamed)
    (convertChildren text (Kind.ofProduction row.production) children [] (next + 1)).1
  have hfilled : Filled text (ParseTree.mk row children).kind (numbered children (next + 1))
      (usedNames (ParseTree.mk row children).kind children)
      (convertChildren text (Kind.ofProduction row.production) children [] (next + 1)).1 :=
    filled_convertChildren apart (List.nil_append _) rfl (.nil text _)
  show Filled text (ParseTree.mk row children).kind (numbered children (next + 1))
    (usedNames (ParseTree.mk row children).kind children
      ++ ownNames row.production (!children.any isNamed))
    (attachScalars row text (!children.any isNamed)
      (convertChildren text (Kind.ofProduction row.production) children [] (next + 1)).1)
  rw [hfields, ← hnames]
  apply hfilled.setScalars
  intro scalar hscalar child hchild
  obtain ⟨hmem, hnamed⟩ := mem_of_mem_numbered hchild
  -- There is a child, so the node is no leaf and has the scalars of its production only.
  have hname : scalar.1 ∈ ownNames row.production (!children.any isNamed) := by
    rw [← hnames]
    exact List.mem_map_of_mem hscalar
  have hsome : children.any isNamed = true := List.any_eq_true.mpr ⟨child.1, hmem, hnamed⟩
  rw [ownNames, hsome, if_neg (by simp)] at hname
  exact apart.childField_ne_scalar hname hmem hnamed

/-! ### Whole trees -/

/-- The blocks of numbers that `numbered` leaves for some trees join without gaps. -/
theorem flatMap_range'_numbered (trees : List ParseTree) (next : Nat) :
    (numbered trees next).flatMap (fun child => List.range' child.2 child.1.count)
      = List.range' next (namedTreesOfList trees).length := by
  have hblocks := congrArg (List.map Prod.snd) (zipIdx_namedTreesOfList trees next)
  rw [List.map_flatMap, List.zipIdx_map_snd] at hblocks
  rw [hblocks]
  exact List.flatMap_congr fun child _ => (List.zipIdx_map_snd _ _).symm

/-- **The identities of a node and what is below it are a block of numbers.** -/
theorem ids_nodeOf (text : Text) {tree : ParseTree}
    (apart : ∀ found ∈ tree.namedTrees, found.FieldsApart) (next : Nat) :
    (nodeOf text (tree, next)).ids.Perm (List.range' next tree.count) := by
  induction tree using ParseTree.childrenInduction generalizing next with
  | step row children ih =>
    have hfilled := filled_nodeOf (apart _ (ParseTree.self_mem_namedTrees _)) text next
    rw [Node.ids_eq, id_nodeOf, ParseTree.count_mk, Nat.add_comm 1, List.range'_succ,
      ← flatMap_range'_numbered]
    apply List.Perm.cons
    have hchildren := hfilled.complete.flatMap_right Node.ids
    rw [List.flatMap_map] at hchildren
    refine hchildren.trans (List.Perm.flatMap_left _ ?_)
    intro child hchild
    obtain ⟨hmem, hnamed⟩ := mem_of_mem_numbered hchild
    refine ih child.1 hmem ?_ child.2
    intro found hfound
    exact apart found (ParseTree.mem_namedTrees_of_child hmem hnamed hfound)

/-- Every named tree has its node, `nodeOf` the tree with its number in pre-order. -/
theorem nodeOf_mem_nodes (text : Text) {tree : ParseTree}
    (apart : ∀ found ∈ tree.namedTrees, found.FieldsApart) {next : Nat} {found : ParseTree × Nat}
    (h : found ∈ tree.namedTrees.zipIdx next) :
    nodeOf text found ∈ (nodeOf text (tree, next)).nodes := by
  induction tree using ParseTree.childrenInduction generalizing next with
  | step row children ih =>
    rw [zipIdx_namedTrees] at h
    rcases List.mem_cons.mp h with rfl | hbelow
    · exact Node.self_mem_nodes _
    · obtain ⟨child, hchild, hfound⟩ := List.mem_flatMap.mp hbelow
      obtain ⟨hmem, hnamed⟩ := mem_of_mem_numbered hchild
      have hfilled := filled_nodeOf (apart _ (ParseTree.self_mem_namedTrees _)) text next
      refine Node.mem_nodes_iff.mpr (Or.inr ⟨nodeOf text child, ?_, ?_⟩)
      · exact hfilled.complete.mem_iff.mpr (List.mem_map_of_mem hchild)
      · exact ih child.1 hmem (fun found hfound =>
          apart found (ParseTree.mem_namedTrees_of_child hmem hnamed hfound)) hfound

/-- The node is what a tree with its `number` should become. -/
structure Mirrors (text : Text) (tree : ParseTree) (number : Nat) (node : Node) : Prop where
  /-- It has the number for its identity, and kind, origin and anchor of the row. -/
  header : node.header = headerOf text tree.row number
  /-- The identities from it on are the next ones. -/
  ids : node.ids.Perm (List.range' number tree.count)
  /-- The fields stand in the order of their first occurrence. -/
  names : node.fields.map Field.name = (fieldNames tree).eraseDups
  distinct : (node.fields.map Field.name).Nodup
  /-- Each field has the children that go there, in the order of the source. -/
  placed : ∀ name, (node.childrenIn name).map Node.id
    = (goingTo tree.kind name (numbered tree.children (number + 1))).map Prod.snd
  /-- Comments have a sequence of their own. -/
  comments : (∃ child ∈ tree.children, isNamed child = true ∧ child.isComment = true) →
    ∃ nodes, node.get? Kind.commentsField = some (.nodes nodes) ∧ nodes.map Node.id
      = ((numbered tree.children (number + 1)).filter fun child => child.1.isComment).map Prod.snd
  /-- The body of a container is a sequence, even with one statement. -/
  body : Kind.statementContainers.contains node.kind = true →
    node.childrenIn Kind.bodyField ≠ [] →
      ∃ nodes, node.get? Kind.bodyField = some (.nodes nodes)

theorem joinsSequence_of_body {kind : String} {row : Row}
    (hcontainer : Kind.statementContainers.contains kind = true)
    (hbody : childField kind row = Kind.bodyField) : joinsSequence kind row = true := by
  unfold childField at hbody
  unfold joinsSequence
  by_cases hcomment : row.production = "comment"
  · simp [hcomment]
  · rw [if_neg hcomment] at hbody
    cases hfield : row.field with
    | none =>
      rw [hfield] at hbody
      have hunnamed : Kind.unnamedField kind = Kind.bodyField := hbody
      simp [Kind.unnamedAreSequence, hunnamed, Kind.bodyField, Kind.expressionField]
    | some name =>
      rw [hfield] at hbody
      have hname : name = Kind.bodyField := hbody
      simp only [Kind.isStatementSlot, hname, hcontainer]
      simp

theorem map_id_nodeOf (text : Text) (children : List (ParseTree × Nat)) :
    (children.map (nodeOf text)).map Node.id = children.map Prod.snd := by
  rw [List.map_map]
  exact List.map_congr_left fun child _ => id_nodeOf text child

/-- The comments are together in a sequence under `commentsField`, and nothing else is there. -/
theorem comments_nodeOf (text : Text) (apart : tree.FieldsApart) (number : Nat)
    (h : ∃ child ∈ tree.children, isNamed child = true ∧ child.isComment = true) :
    ∃ nodes, (nodeOf text (tree, number)).get? Kind.commentsField = some (.nodes nodes) ∧
      nodes.map Node.id
        = ((numbered tree.children (number + 1)).filter fun child => child.1.isComment).map
            Prod.snd := by
  obtain ⟨comment, hmem, hnamed, hcomment⟩ := h
  have hfilled := filled_nodeOf apart text number
  have hfield : childField tree.kind comment.row = Kind.commentsField :=
    if_pos (of_decide_eq_true hcomment)
  have hjoins : joinsSequence tree.kind comment.row = true := by
    show (comment.isComment || _) = true
    rw [hcomment, Bool.true_or]
  obtain ⟨place, hplace⟩ := exists_mem_numbered hmem hnamed (number + 1)
  obtain ⟨nodes, hnodes⟩ := hfilled.sequences _ hplace hjoins
  have hplaced := hfilled.placed Kind.commentsField
  rw [hfield] at hnodes
  rw [hnodes] at hplaced
  -- Where there is a comment, the children that go to the comments are the comments.
  have hgoing : goingTo tree.kind Kind.commentsField (numbered tree.children (number + 1))
      = (numbered tree.children (number + 1)).filter fun child => child.1.isComment := by
    apply List.filter_congr
    intro child hchild
    obtain ⟨hchildMem, hchildNamed⟩ := mem_of_mem_numbered hchild
    rw [Bool.eq_iff_iff, decide_eq_true_eq]
    constructor
    · intro hsame
      exact apart.isComment_of_childField_eq hmem hnamed hcomment hchildMem hchildNamed
        (hsame.trans hfield.symm)
    · intro hyes
      exact if_pos (of_decide_eq_true hyes)
  refine ⟨nodes, hnodes, ?_⟩
  rw [← hgoing, ← map_id_nodeOf text, ← hplaced]
  rfl

/-- A statement in the body of a container makes it a sequence, as it `joinsSequence`. -/
theorem body_nodeOf (text : Text) (apart : tree.FieldsApart) (number : Nat)
    (hcontainer : Kind.statementContainers.contains tree.kind = true)
    (h : (nodeOf text (tree, number)).childrenIn Kind.bodyField ≠ []) :
    ∃ nodes, (nodeOf text (tree, number)).get? Kind.bodyField = some (.nodes nodes) := by
  have hfilled := filled_nodeOf apart text number
  have hplaced : (nodeOf text (tree, number)).childrenIn Kind.bodyField = _ :=
    hfilled.placed Kind.bodyField
  rw [hplaced] at h
  obtain ⟨statement, hgoing⟩ := List.exists_mem_of_ne_nil _ (mt List.map_eq_nil_iff.mpr h)
  obtain ⟨hstatement, hname⟩ := List.mem_filter.mp hgoing
  have hfield : childField tree.kind statement.1.row = Kind.bodyField := of_decide_eq_true hname
  obtain ⟨nodes, hnodes⟩ :=
    hfilled.sequences statement hstatement (joinsSequence_of_body hcontainer hfield)
  rw [hfield] at hnodes
  exact ⟨nodes, hnodes⟩

/-- **What a conversion makes of a tree mirrors it** (`Mirrors`). -/
theorem mirrors_nodeOf (text : Text) (apart : ∀ found ∈ tree.namedTrees, found.FieldsApart)
    (number : Nat) : Mirrors text tree number (nodeOf text (tree, number)) := by
  have hself := apart tree tree.self_mem_namedTrees
  have hfilled := filled_nodeOf hself text number
  have hheader := header_nodeOf text (tree, number)
  refine ⟨hheader, ids_nodeOf text apart number, hfilled.names, hfilled.distinct, ?_,
    comments_nodeOf text hself number, ?_⟩
  · intro name
    rw [← map_id_nodeOf text, ← hfilled.placed]
    rfl
  · intro hcontainer hstatements
    have hkind : (nodeOf text (tree, number)).kind = tree.kind := congrArg Header.kind hheader
    rw [hkind] at hcontainer
    exact body_nodeOf text hself number hcontainer hstatements

end Parse

/-! ### Parsed trees -/

/-- **Conversion loses nothing.**  Where the fields of a parse tree keep apart, its text parses to a
tree with one node for each named tree, under its number in pre-order; each mirrors its tree, and
the numbers of its children are those of the children of the tree. -/
theorem Tree.parse_mirrors {grammar : Grammar} {text : Text} {parsed : ParseTree}
    (hparsed : grammar text = some parsed) (hfault : Parse.fault? text parsed = none)
    (apart : ∀ tree ∈ parsed.namedTrees, tree.FieldsApart) :
    ∃ tree, Tree.parse grammar text = .ok tree ∧
      tree.nextId = parsed.namedTrees.length ∧
      tree.size = parsed.namedTrees.length ∧
      tree.root.id = 0 ∧
      tree.root.ids.Perm (List.range parsed.namedTrees.length) ∧
      (∀ number found, parsed.namedTrees[number]? = some found →
        (∃ node ∈ tree.root.nodes, Parse.Mirrors text found number node) ∧
        ∀ child ∈ Parse.numbered found.children (number + 1),
          parsed.namedTrees[child.2]? = some child.1) ∧
      (Parse.isNamed parsed = true → parsed.tokensAreLeaves = true →
        parsed.namedTrees.map ParseTree.row
          = parsed.rows.filter fun row => row.status = .named) := by
  have hids := Parse.ids_nodeOf text apart 0
  rw [← List.range_eq_range'] at hids
  refine ⟨Tree.ofParseTree text parsed, Tree.parse_eq_ok_iff.mpr ⟨parsed, hparsed, hfault, rfl⟩,
    ?_, ?_, Parse.id_nodeOf text (parsed, 0), hids, ?_, ?_⟩
  · show (Parse.convert text parsed 0).2 = _
    rw [Parse.convert_snd, Nat.zero_add]
    rfl
  · -- There is one identity for each node.
    show (Parse.nodeOf text (parsed, 0)).size = _
    rw [← Node.length_ids, hids.length_eq, List.length_range]
    rfl
  · intro number found hfound
    have hmem : (found, number) ∈ parsed.namedTrees.zipIdx :=
      List.mem_zipIdx_iff_getElem?.mpr hfound
    have hbelow : ∀ tree ∈ found.namedTrees, tree.FieldsApart := by
      intro tree htree
      exact apart tree (ParseTree.mem_namedTrees_trans (List.mem_of_getElem? hfound) htree)
    refine ⟨⟨Parse.nodeOf text (found, number), Parse.nodeOf_mem_nodes text apart hmem,
      Parse.mirrors_nodeOf text hbelow number⟩, ?_⟩
    intro child hchild
    exact List.mem_zipIdx_iff_getElem?.mp
      (Parse.mem_zipIdx_trans hmem (Parse.mem_zipIdx_of_mem_numbered found hchild))
  · intro hnamed hleaves
    have hrows := ParseTree.map_row_namedTrees hleaves
    rwa [if_pos hnamed] at hrows

namespace Sample

/-- A sum, and a comment behind it. -/
def commented : Text := "a+b//c".toList

/-- The sum: two operands in fields, with a token in a field of its own between them. -/
def letterSum : ParseTree :=
  named "binary_expression" none 0 3 [
    named "identifier" (some "left") 0 1 [],
    token "+" (some "operator") 1 2,
    named "identifier" (some "right") 2 3 []]

def commentedTree : ParseTree :=
  named "program" none 0 6 [
    named "expression_statement" none 0 3 [letterSum],
    named "comment" none 3 6 []]

end Sample

/-- The program of a sum and a comment has six nodes.  The sum is the one with the number 2; its
fields stand in the order of the text, the token's between those of the operands. -/
theorem Tree.parse_mirrors_commented :
    ∃ tree, Tree.parse (fun _ => some Sample.commentedTree) Sample.commented = .ok tree ∧
      tree.size = 6 ∧
      (∃ node ∈ tree.root.nodes, Parse.Mirrors Sample.commented Sample.commentedTree 0 node) ∧
      (∃ node ∈ tree.root.nodes, Parse.Mirrors Sample.commented Sample.letterSum 2 node ∧
        node.fields.map Field.name = ["left", "operator", "right"] ∧
        (node.childrenIn "right").map Node.id = [4]) ∧
      (Sample.commentedTree.rows.filter fun row => row.status = .named).length = 6 := by
  have apart : ∀ tree ∈ Sample.commentedTree.namedTrees, tree.FieldsApart := by decide +kernel
  obtain ⟨tree, hparse, -, hsize, -, -, hmirrors, hrows⟩ :=
    @Tree.parse_mirrors (fun _ => some Sample.commentedTree) Sample.commented Sample.commentedTree
      rfl (by decide +kernel) apart
  have hcount : Sample.commentedTree.namedTrees.length = 6 := by decide +kernel
  obtain ⟨node, hnode, hsum⟩ := (hmirrors 2 Sample.letterSum rfl).1
  have hnames : node.fields.map Field.name = ["left", "operator", "right"] :=
    hsum.names.trans (by decide +kernel)
  have hright : (node.childrenIn "right").map Node.id = [4] :=
    (hsum.placed "right").trans (by decide +kernel)
  refine ⟨tree, hparse, hsize.trans hcount, (hmirrors 0 Sample.commentedTree rfl).1,
    ⟨node, hnode, hsum, hnames, hright⟩, ?_⟩
  rw [← hrows (by decide +kernel) (by decide +kernel), List.length_map, hcount]

end SyntaxGraft
