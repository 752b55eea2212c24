import SyntaxGraft.Parse.Convert
import SyntaxGraft.Proofs.Tree.Anchor
import Mathlib.Data.List.Flatten
import Mathlib.Data.List.Intervals
import Mathlib.Data.List.Perm.Subperm
/-!
# What conversion keeps of a parse tree

A node's children are stored by field, in the order in which the fields first occurred, and a token
in a field may even push a node out of it.  What can be said is that the children are some of the
named children of the parse tree, each at most once and in any order (`Parse.convertInduction`).
Two statements about whole trees follow:

* the identities are distinct, and between the first number and the first not used
  (`Parse.ids_convert`);
* where the parse tree is well formed (`ParseTree.WellFormed`), every node is settled, with its own
  span for an anchor (`Parse.intact_convert`).

A node that stands at its own span, with all that is below it, prints the bytes of that span
(`Node.printsSpan`).
-/

namespace SyntaxGraft

/-! ### Children of fields -/

namespace Fields

/-- `addNode` loses no child.  The order is not the one in which they come: a field that is there
already takes the new one in. -/
theorem children_addNode (name : String) (node : Node) (fields : List Field) :
    (children (addNode name node fields)).Perm (node :: children fields) := by
  induction fields with
  | nil => exact List.Perm.refl _
  | cons field rest ih =>
    obtain ⟨other, value⟩ := field
    rw [addNode]
    split
    · cases value with
      | node first => exact List.Perm.swap _ _ _
      | nodes nodes =>
        show ((nodes ++ [node]) ++ children rest).Perm (node :: (nodes ++ children rest))
        rw [List.append_assoc]
        exact List.perm_middle
      | scalar scalar => exact List.Perm.refl _
    · exact (ih.append_left value.children).trans List.perm_middle

theorem children_addToSequence (name : String) (node : Node) (fields : List Field) :
    (children (addToSequence name node fields)).Perm (node :: children fields) := by
  induction fields with
  | nil => exact List.Perm.refl _
  | cons field rest ih =>
    obtain ⟨other, value⟩ := field
    -- A field of its own at the end.
    have hend : (children (.mk other value :: (rest ++ [.mk name (.nodes [node])]))).Perm
        (node :: children (.mk other value :: rest)) := by
      have happend : children (.mk other value :: (rest ++ [.mk name (.nodes [node])]))
          = children (.mk other value :: rest) ++ [node] := by simp
      rw [happend]
      exact List.perm_append_singleton _ _
    rw [addToSequence]
    split
    · cases value with
      | node first => exact hend
      | nodes nodes =>
        show ((nodes ++ [node]) ++ children rest).Perm (node :: (nodes ++ children rest))
        rw [List.append_assoc]
        exact List.perm_middle
      | scalar scalar => exact hend
    · exact (ih.append_left value.children).trans List.perm_middle

/-- `setScalar` brings no node, and may take the place of some. -/
theorem children_setScalar (name : String) (scalar : Scalar) (fields : List Field) :
    (children (setScalar name scalar fields)).Sublist (children fields) := by
  induction fields with
  | nil => exact List.Sublist.refl _
  | cons field rest ih =>
    rw [setScalar]
    split
    · exact List.sublist_append_right _ _
    · exact ih.append_left _

end Fields

namespace Parse

theorem children_addChild (kind : String) (row : Row) (child : Node) (fields : List Field) :
    (Fields.children (addChild kind row child fields)).Perm (child :: Fields.children fields) := by
  unfold addChild
  split
  · exact Fields.children_addToSequence _ _ _
  · split
    · split
      · exact Fields.children_addToSequence _ _ _
      · exact Fields.children_addNode _ _ _
    · dsimp only
      split
      · exact Fields.children_addToSequence _ _ _
      · exact Fields.children_addNode _ _ _

theorem children_addToken (row : Row) (text : Text) (fields : List Field) :
    (Fields.children (addToken row text fields)).Sublist (Fields.children fields) := by
  unfold addToken
  split
  · exact Fields.children_setScalar _ _ _
  · exact List.Sublist.refl _

theorem children_attachScalars (row : Row) (text : Text) (isLeaf : Bool) (fields : List Field) :
    (Fields.children (attachScalars row text isLeaf fields)).Sublist (Fields.children fields) := by
  have htwice : ∀ value raw, (Fields.children (Fields.setScalar "raw" raw
      (Fields.setScalar "value" value fields))).Sublist (Fields.children fields) := fun value raw =>
    (Fields.children_setScalar _ _ _).trans (Fields.children_setScalar _ _ _)
  unfold attachScalars
  dsimp only
  split
  · exact Fields.children_setScalar _ _ _
  · split
    · exact htwice _ _
    · exact htwice _ _
    · exact Fields.children_setScalar _ _ _
    · exact Fields.children_setScalar _ _ _
    · exact Fields.children_setScalar _ _ _
    · split
      · exact Fields.children_setScalar _ _ _
      · exact List.Sublist.refl _

end Parse

/-! ### The conversion of children -/

namespace ParseTree

mutual

/-- **Induction over the children of a parse tree.** -/
theorem childrenInduction {P : ParseTree → Prop}
    (step : ∀ row children, (∀ child ∈ children, P child) → P (.mk row children)) :
    ∀ tree, P tree
  | .mk row children => step row children (childrenInductionList step children)

theorem childrenInductionList {P : ParseTree → Prop}
    (step : ∀ row children, (∀ child ∈ children, P child) → P (.mk row children)) :
    ∀ trees : List ParseTree, ∀ child ∈ trees, P child
  | [] => by simp
  | tree :: rest => by
    intro child hchild
    rcases List.mem_cons.mp hchild with htree | hrest
    · exact htree ▸ childrenInduction step tree
    · exact childrenInductionList step rest child hrest

end

end ParseTree

namespace Parse

/-- The nodes of the named ones among some parse trees, numbered in turn: what `convertChildren`
would give, were it not for fields. -/
def convertEach (text : Text) : List ParseTree → Nat → List Node × Nat
  | [], next => ([], next)
  | tree :: rest, next =>
    if isNamed tree then
      let (node, next) := convert text tree next
      let (nodes, next) := convertEach text rest next
      (node :: nodes, next)
    else convertEach text rest next

/-- The children are some of the nodes of `convertEach`, besides those that were there.  Which ones
get lost depends on the fields, and is left open. -/
theorem convertChildren_subperm (text : Text) (kind : String) (trees : List ParseTree)
    (fields : List Field) (next : Nat) :
    (Fields.children (convertChildren text kind trees fields next).1).Subperm
        (Fields.children fields ++ (convertEach text trees next).1) ∧
      (convertChildren text kind trees fields next).2 = (convertEach text trees next).2 := by
  induction trees generalizing fields next with
  | nil =>
    simp only [convertChildren, convertEach, List.append_nil]
    exact ⟨List.Subperm.refl _, trivial⟩
  | cons tree rest ih =>
    rw [convertChildren, convertEach]
    split
    · -- a named child: its node is among the fields from here on
      obtain ⟨hchildren, hnext⟩ :=
        ih (addChild kind tree.row (convert text tree next).1 fields) (convert text tree next).2
      refine ⟨hchildren.trans (List.Perm.subperm ?_), hnext⟩
      exact ((children_addChild _ _ _ _).append_right _).trans List.perm_middle.symm
    · -- a token: its text may push nodes out of a field
      obtain ⟨hchildren, hnext⟩ := ih (addToken tree.row text fields) next
      exact ⟨hchildren.trans ((children_addToken _ _ _).append_right _).subperm, hnext⟩

/-- What a node of a parse tree becomes, its fields apart; `next` is its identity. -/
def headerOf (text : Text) (row : Row) (next : Nat) : Header :=
  { id := next, kind := Kind.ofProduction row.production, origin := some ⟨text, row.spanIn text⟩,
    anchor := some (row.spanIn text).range }

/-- **Induction along a conversion.**  `P` speaks of a parse tree and its node, `Q` of a list of
parse trees and the nodes of the named ones; both also of the numbers given out.  The children of a
node are some of the nodes of its named children. -/
theorem convertInduction (text : Text) {P : ParseTree → Nat → Node → Nat → Prop}
    {Q : List ParseTree → Nat → List Node → Nat → Prop}
    (mk : ∀ row children next node nodes after, node.header = headerOf text row next →
      node.children.Subperm nodes → Q children (next + 1) nodes after →
      P (.mk row children) next node after)
    (nil : ∀ next, Q [] next [] next)
    (token : ∀ tree rest next nodes after, isNamed tree = false → Q rest next nodes after →
      Q (tree :: rest) next nodes after)
    (named : ∀ tree rest next node between nodes after, isNamed tree = true →
      P tree next node between → Q rest between nodes after →
      Q (tree :: rest) next (node :: nodes) after)
    (tree : ParseTree) (next : Nat) :
    P tree next (convert text tree next).1 (convert text tree next).2 := by
  induction tree using ParseTree.childrenInduction generalizing next with
  | step row children ih =>
    -- The induction hypothesis, carried along the children from one number to the next.
    have heach : ∀ trees : List ParseTree, (∀ tree ∈ trees, tree ∈ children) → ∀ next,
        Q trees next (convertEach text trees next).1 (convertEach text trees next).2 := by
      intro trees
      induction trees with
      | nil => intro _ next; exact nil next
      | cons tree rest ihRest =>
        intro hmem next
        have hrest := ihRest fun other hother => hmem other (List.mem_cons_of_mem _ hother)
        cases hnamed : isNamed tree with
        | true =>
          rw [convertEach, if_pos hnamed]
          exact named tree rest next _ _ _ _ hnamed (ih tree (hmem tree List.mem_cons_self) next)
            (hrest _)
        | false =>
          rw [convertEach, if_neg (Bool.eq_false_iff.mp hnamed)]
          exact token tree rest next _ _ hnamed (hrest next)
    obtain ⟨hchildren, hnext⟩ :=
      convertChildren_subperm text (Kind.ofProduction row.production) children [] (next + 1)
    have hrun := heach children (fun _ h => h) (next + 1)
    rw [← hnext] at hrun
    exact mk row children next _ _ _ rfl
      ((children_attachScalars row text _ _).subperm.trans hchildren) hrun

/-! ### Identities -/

/-- **The identities of a converted tree** (`Node.ids`) are distinct numbers from the first on. -/
theorem ids_convert (text : Text) (tree : ParseTree) (next : Nat) :
    next < (convert text tree next).2 ∧
      (convert text tree next).1.ids.Subperm (List.Ico next (convert text tree next).2) := by
  apply convertInduction text
    (P := fun _ next node after => next < after ∧ node.ids.Subperm (List.Ico next after))
    (Q := fun _ next nodes after =>
      next ≤ after ∧ (nodes.flatMap Node.ids).Subperm (List.Ico next after))
  · -- The node has the first number; what its children lost takes their numbers with it.
    rintro row children next node nodes after hheader ⟨chosen, hperm, hsub⟩ ⟨hle, hids⟩
    have hid : node.id = next := congrArg Header.id hheader
    refine ⟨hle, ?_⟩
    rw [Node.ids_eq, hid, List.Ico.eq_cons hle, List.subperm_cons]
    have hchosen := (hperm.symm.flatMap_right Node.ids).subperm
    exact (hchosen.trans (hsub.flatMap Node.ids).subperm).trans hids
  · intro next
    exact ⟨Nat.le_refl _, List.nil_subperm⟩
  · intro tree rest next nodes after _ h
    exact h
  · rintro tree rest next node between nodes after _ ⟨hlt, hone⟩ ⟨hle, hrest⟩
    refine ⟨Nat.le_trans hlt.le hle, ?_⟩
    rw [List.flatMap_cons, ← List.Ico.append_consecutive hlt.le hle]
    exact hone.append hrest

end Parse

/-! ### Well formed parse trees -/

/-- The byte range of a node, from `start` to `stop`. -/
def Row.range (row : Row) : ByteRange :=
  ⟨row.start, row.stop⟩

/-- What a parser promises of its trees: ranges are of whole characters of the text; children lie
inside their parent, one after the other; a named child is not empty. -/
inductive ParseTree.WellFormed (text : Text) : ParseTree → Prop
  | mk {row : Row} {children : List ParseTree} (fits : row.range.FitsIn text)
      (within : ∀ child ∈ children, row.start ≤ child.row.start ∧ child.row.stop ≤ row.stop)
      (inOrder : children.Pairwise fun child other => child.row.stop ≤ other.row.start)
      (nonempty : ∀ child ∈ children, Parse.isNamed child = true →
        child.row.start < child.row.stop)
      (below : ∀ child ∈ children, child.WellFormed text) : WellFormed text (.mk row children)

namespace ParseTree

variable {text : Text}

theorem WellFormed.fits {tree : ParseTree} (h : tree.WellFormed text) :
    tree.row.range.FitsIn text := by
  cases h with
  | mk fits => exact fits

theorem wellFormed_iff {row : Row} {children : List ParseTree} :
    (ParseTree.mk row children).WellFormed text ↔ row.range.FitsIn text ∧
      (∀ child ∈ children, row.start ≤ child.row.start ∧ child.row.stop ≤ row.stop) ∧
      (children.Pairwise fun child other => child.row.stop ≤ other.row.start) ∧
      (∀ child ∈ children, Parse.isNamed child = true → child.row.start < child.row.stop) ∧
      ∀ child ∈ children, child.WellFormed text := by
  constructor
  · rintro ⟨fits, within, inOrder, nonempty, below⟩
    exact ⟨fits, within, inOrder, nonempty, below⟩
  · rintro ⟨fits, within, inOrder, nonempty, below⟩
    exact .mk fits within inOrder nonempty below

mutual

/-- `WellFormed` can be decided, along the tree. -/
def decideWellFormed (text : Text) : (tree : ParseTree) → Decidable (tree.WellFormed text)
  | .mk _ children =>
    have := decideAllWellFormed text children
    decidable_of_iff _ wellFormed_iff.symm

def decideAllWellFormed (text : Text) :
    (trees : List ParseTree) → Decidable (∀ tree ∈ trees, tree.WellFormed text)
  | [] => .isTrue (by simp)
  | tree :: rest =>
    have := decideWellFormed text tree
    have := decideAllWellFormed text rest
    decidable_of_iff _ List.forall_mem_cons.symm

end

instance (tree : ParseTree) : Decidable (tree.WellFormed text) :=
  decideWellFormed text tree

end ParseTree

/-- The grammar's tree of the text, when it is free of faults, is well formed. -/
def Grammar.WellFormedAt (grammar : Grammar) (text : Text) : Prop :=
  ∀ parsed, grammar text = some parsed → Parse.fault? text parsed = none → parsed.WellFormed text

theorem Grammar.wellFormedAt_of_eq_some {grammar : Grammar} {text : Text} {parsed : ParseTree}
    (h : grammar text = some parsed) (hwell : parsed.WellFormed text) :
    grammar.WellFormedAt text := by
  intro other hother _
  rw [h] at hother
  exact Option.some.inj hother ▸ hwell

/-- The node is as it was parsed from the text: it stands at its own span, and its children inside
of it. -/
def Node.Intact (text : Text) (node : Node) : Prop :=
  ∃ span, node.header.origin = some ⟨text, span⟩ ∧ node.anchor = some span.range ∧
    Anchored ⟨text, span⟩ (node.children.map Node.anchor)

theorem Node.Intact.settled {text : Text} {node : Node} (h : node.Intact text) : node.Settled := by
  obtain ⟨span, horigin, -, hanchored⟩ := h
  exact (settled_of_origin horigin).mpr hanchored

/-- The node stands in the `text` at its own span, which is its anchor as well. -/
def Node.InPlace (text : Text) (node : Node) : Prop :=
  ∃ span, node.header.origin = some ⟨text, span⟩ ∧ node.anchor = some span.range ∧
    span.range.FitsIn text

theorem Node.Intact.inPlace {text : Text} {node : Node} (h : node.Intact text) :
    node.InPlace text := by
  obtain ⟨span, horigin, hanchor, hanchored⟩ := h
  exact ⟨span, horigin, hanchor, hanchored.fits⟩

/-- The node prints as the bytes of its span, and every cut that the printer makes for it is one of
whole characters. -/
structure Node.PrintsSpan (text : Text) (span : Span) (node : Node) : Prop where
  origin : node.header.origin = some ⟨text, span⟩
  cuts : Printing.cutSplice? text span.stop span.start
    (Printing.sortByStart (node.children.filterMap fun child =>
      child.anchor.map fun range => (range, child.print))) = some node.print
  bytes : Text.slice? text span.start span.stop = some node.print

/-- **What was parsed prints as its own text.**  Nothing is asked of how the spans below lie to each
other, and nothing of the anchor of the node itself. -/
theorem Node.printsSpan {text : Text} {span : Span} {node : Node}
    (horigin : node.header.origin = some ⟨text, span⟩) (hfits : span.range.FitsIn text)
    (hbelow : ∀ child ∈ node.children, ∀ found ∈ child.nodes, found.InPlace text) :
    node.PrintsSpan text span := by
  -- On the tree: the texts of the children are slices, and a splice of slices is one.
  induction node using Node.childrenInduction generalizing span with
  | step header fields ih =>
    -- Every entry of the printer's splice is what the text has there.
    have hentries : ∀ entry ∈ Printing.sortByStart ((Fields.children fields).filterMap fun child =>
        child.anchor.map fun range => (range, child.print)),
        entry.1.FitsIn text ∧ entry.2 = Text.slice text entry.1.start entry.1.stop := by
      intro entry hentry
      obtain ⟨child, hchild, hentry⟩ := List.mem_filterMap.mp (Printing.mem_sortByStart.mp hentry)
      obtain ⟨range, hrange, rfl⟩ := Option.map_eq_some_iff.mp hentry
      obtain ⟨childSpan, hchildOrigin, hchildAnchor, hchildFits⟩ :=
        hbelow child hchild child child.self_mem_nodes
      obtain rfl : childSpan.range = range := Option.some.inj (hchildAnchor.symm.trans hrange)
      have hchildPrints := ih child hchild hchildOrigin hchildFits fun below hbelowChild found h =>
        hbelow child hchild found (mem_nodes_of_child hbelowChild h)
      refine ⟨hchildFits, ?_⟩
      show child.print = Text.slice text childSpan.start childSpan.stop
      rw [Text.slice, hchildPrints.bytes]
      rfl
    have hcuts := Printing.cutSplice?_of_slices hfits.start hfits.stop hfits.ordered
      (fun entry hentry => (hentries entry hentry).1) fun entry hentry => (hentries entry hentry).2
    have hprint : (Node.mk header fields).print = Text.slice text span.start span.stop :=
      (print_of_origin horigin).trans (Printing.splice_of_cutSplice? hcuts)
    refine ⟨horigin, ?_, ?_⟩
    · rw [hprint]
      exact hcuts
    · rw [hprint]
      exact (Text.slice?_eq_some hfits.start hfits.stop hfits.ordered).1

theorem Node.sourceText?_eq_print {text : Text} {node : Node}
    (h : ∀ found ∈ node.nodes, found.Intact text) : node.sourceText? = some node.print := by
  obtain ⟨span, horigin, -, hfits⟩ := (h node node.self_mem_nodes).inPlace
  have hprints := printsSpan horigin hfits fun child hchild found hfound =>
    (h found (mem_nodes_of_child hchild hfound)).inPlace
  rw [sourceText?, horigin]
  exact hprints.bytes

/-- `Anchored` holds of some of the anchors, in any order. -/
theorem Anchored.of_subperm {origin : Origin} {anchors fewer : List (Option ByteRange)}
    (h : Anchored origin anchors) (hsub : fewer.Subperm anchors) : Anchored origin fewer where
  fits := h.fits
  inside anchor hanchor := h.inside anchor (hsub.subset hanchor)
  apart := by
    obtain ⟨chosen, hperm, hchosen⟩ := hsub
    refine (hperm.pairwise_iff ?_).mp (h.apart.sublist hchosen)
    intro anchor other hapart range hrange range' hrange'
    exact (hapart range' hrange' range hrange).symm

namespace Parse

/-- The ranges of the named children of a tree that is `WellFormed` are `Anchored` in its span. -/
theorem anchored_of_wellFormed {text : Text} {row : Row} {children : List ParseTree}
    (h : (ParseTree.mk row children).WellFormed text) :
    Anchored ⟨text, row.spanIn text⟩
      ((children.filter isNamed).map fun child => some child.row.range) := by
  cases h with
  | mk fits within inOrder nonempty below =>
    refine ⟨fits, ?_, ?_⟩
    · intro anchor hanchor
      obtain ⟨child, hchild, rfl⟩ := List.mem_map.mp hanchor
      obtain ⟨hmem, hnamed⟩ := List.mem_filter.mp hchild
      exact ⟨child.row.range, rfl, (below child hmem).fits, nonempty child hmem hnamed,
        (within child hmem).1, (within child hmem).2⟩
    · refine List.pairwise_map.mpr ((inOrder.sublist List.filter_sublist).imp ?_)
      rintro child other hle _ ⟨⟩ _ ⟨⟩
      exact Or.inl hle

/-- **Every node of a well formed tree is settled**, with its own span for an anchor. -/
theorem intact_convert (text : Text) (tree : ParseTree) (next : Nat) (h : tree.WellFormed text) :
    (convert text tree next).1.anchor = some tree.row.range ∧
      ∀ node ∈ (convert text tree next).1.nodes, node.Intact text := by
  revert h
  apply convertInduction text
    (P := fun tree _ node _ => tree.WellFormed text →
      node.anchor = some tree.row.range ∧ ∀ found ∈ node.nodes, found.Intact text)
    (Q := fun trees _ nodes _ => (∀ tree ∈ trees, tree.WellFormed text) →
      nodes.map Node.anchor = (trees.filter isNamed).map (fun tree => some tree.row.range) ∧
        ∀ node ∈ nodes, ∀ found ∈ node.nodes, found.Intact text)
  · intro row children next node nodes after hheader hsub heach hwell
    have hanchored := anchored_of_wellFormed hwell
    cases hwell with
    | mk fits within inOrder nonempty below =>
      obtain ⟨hanchors, hintact⟩ := heach below
      have hanchor : node.anchor = some row.range := congrArg Header.anchor hheader
      refine ⟨hanchor, ?_⟩
      intro found hfound
      rcases Node.mem_nodes_iff.mp hfound with rfl | ⟨child, hchild, hfound⟩
      · -- The anchors of the children are some of the ranges of the named trees.
        refine ⟨row.spanIn text, congrArg Header.origin hheader, hanchor, ?_⟩
        apply hanchored.of_subperm
        rw [← hanchors]
        obtain ⟨chosen, hperm, hchosen⟩ := hsub
        exact ⟨chosen.map Node.anchor, hperm.map _, hchosen.map _⟩
      · exact hintact child (hsub.subset hchild) found hfound
  · intro next _
    exact ⟨rfl, by simp⟩
  · intro tree rest next nodes after hnamed heach hwell
    rw [List.filter_cons_of_neg (by simp [hnamed])]
    exact heach (List.forall_mem_cons.mp hwell).2
  · intro tree rest next node between nodes after hnamed hone hrest hwell
    obtain ⟨htree, hwell⟩ := List.forall_mem_cons.mp hwell
    obtain ⟨hanchor, hintact⟩ := hone htree
    obtain ⟨hanchors, hintactRest⟩ := hrest hwell
    rw [List.filter_cons_of_pos hnamed, List.map_cons, List.map_cons, hanchor, hanchors]
    exact ⟨rfl, List.forall_mem_cons.mpr ⟨hintact, hintactRest⟩⟩

end Parse

/-! ### Parsed trees -/

namespace Tree

variable {grammar : Grammar} {text : Text} {tree : Tree}

theorem parse_eq_ok_iff :
    parse grammar text = .ok tree ↔
      ∃ parsed, grammar text = some parsed ∧ Parse.fault? text parsed = none ∧
        ofParseTree text parsed = tree := by
  unfold parse
  cases hparsed : grammar text with
  | none => simp
  | some parsed => cases hfault : Parse.fault? text parsed <;> simp [hfault]

theorem source_of_parse (h : parse grammar text = .ok tree) : tree.source = text := by
  obtain ⟨parsed, -, -, rfl⟩ := parse_eq_ok_iff.mp h
  rfl

/-- The identities of a parsed tree are distinct and below `nextId`. -/
theorem ids_of_parse (h : parse grammar text = .ok tree) :
    tree.root.ids.Subperm (List.Ico 0 tree.nextId) := by
  obtain ⟨parsed, -, -, rfl⟩ := parse_eq_ok_iff.mp h
  exact (Parse.ids_convert text parsed 0).2

theorem intact_of_parse (hwell : grammar.WellFormedAt text) (h : parse grammar text = .ok tree) :
    (∃ range, tree.root.anchor = some range ∧ range.FitsIn text) ∧
      ∀ node ∈ tree.root.nodes, node.Intact text := by
  obtain ⟨parsed, hparsed, hfault, rfl⟩ := parse_eq_ok_iff.mp h
  have hwell := hwell parsed hparsed hfault
  obtain ⟨hanchor, hintact⟩ := Parse.intact_convert text parsed 0 hwell
  exact ⟨⟨parsed.row.range, hanchor, hwell.fits⟩, hintact⟩

end Tree

/-! ### A small grammar

Two texts with their parse trees, to try statements on. -/

namespace Sample

def named (production : String) (field : Option String) (start stop : Nat)
    (children : List ParseTree) : ParseTree :=
  .mk { production, status := .named, field, start, stop } children

def token (production : String) (field : Option String) (start stop : Nat) : ParseTree :=
  .mk { production, status := .token, field, start, stop } []

/-- A call of a function with a name of one letter. -/
def call (field : Option String) (start stop : Nat) (argument : ParseTree) : ParseTree :=
  named "call_expression" field start stop [
    named "identifier" (some "function") start (start + 1) [],
    named "arguments" (some "arguments") (start + 1) stop [
      token "(" none (start + 1) (start + 2),
      argument,
      token ")" none (stop - 1) stop]]

/-- A program of one expression, with operands from the first byte and to the last. -/
def binary (operator : String) (stop : Nat) (right : ParseTree) : ParseTree :=
  named "program" none 0 stop [
    named "expression_statement" none 0 stop [
      named "binary_expression" none 0 stop [
        named "identifier" (some "left") 0 1 [],
        token operator (some "operator") 2 3,
        right]]]

/-- The text with calls in a factor. -/
def product : Text := "a * f(f(b))".toList

def productTree : ParseTree :=
  binary "*" 11 (call (some "right") 4 11 (call none 6 10 (named "identifier" none 8 9 [])))

/-- The text of a sum. -/
def sum : Text := "c + d".toList

def sumTree : ParseTree :=
  binary "+" 5 (named "identifier" (some "right") 4 5 [])

/-- The grammar of the two texts. -/
def grammar : Grammar := .ofLookup fun text =>
  if text = product then some productTree else if text = sum then some sumTree else none

/-- The selector of calls. -/
def calls : Text := "CallExpression".toList

theorem wellFormedAt_product : grammar.WellFormedAt product :=
  Grammar.wellFormedAt_of_eq_some rfl (by decide +kernel : productTree.WellFormed product)

theorem wellFormedAt_sum : grammar.WellFormedAt sum :=
  Grammar.wellFormedAt_of_eq_some rfl (by decide +kernel : sumTree.WellFormed sum)

end Sample

end SyntaxGraft
