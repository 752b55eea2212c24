import Mathlib.Data.Finset.Card
import Mathlib.Data.List.TakeWhile
import SyntaxGraft.Rules.Apply
/-!
# What is wrong with a rule file

The issues of a rule file are collected in one pass that remembers the identities it has met.  Here
they are said without a pass: for each rule in order and each of its parts in order, `Rule.issueAt`
has the issue that is due there, given the rules before.  The pass lists just these
(`RuleFile.issues_eq`), so that a file without issues is one whose rules are complete, distinct and
in modes that there are (`RuleFile.issues_eq_nil_iff`), and each rule that repeats an identity is
counted once (`RuleFile.countP_isDuplicate_add_card`).

Rules without issues never fail for their mode (`exists_rule_of_mode_error`): the run looks up modes
as the pass does.
-/

namespace SyntaxGraft

/-- A text is blank, by `isAllBlank`, when `trim` leaves nothing of it. -/
theorem Text.isAllBlank_iff {text : Text} : isAllBlank text = true ↔ trim text = [] := by
  rw [isAllBlank, List.all_eq_true, trim, trimEnd, List.reverse_eq_nil_iff,
    List.dropWhile_eq_nil_iff]
  simp only [List.mem_reverse]
  constructor
  · intro h c hc
    exact h c ((List.dropWhile_sublist isBlank).subset hc)
  · intro h
    -- What is left after the blanks in front would begin with a character that is not blank.
    have hnil : skipBlank text = [] := by
      cases hskip : skipBlank text with
      | nil => rfl
      | cons c rest =>
        have hhead := List.head?_dropWhile_not isBlank text
        rw [show text.dropWhile isBlank = c :: rest from hskip] at hhead
        have hblank := h c (by rw [hskip]; exact List.mem_cons_self)
        simp [hblank] at hhead
    exact List.dropWhile_eq_nil_iff.mp hnil

/-! ### The issues that are due -/

/-- The parts of a rule that are checked by `Rule.issues`. -/
inductive RulePart where
  | id
  | selector
  | replacement
  | mode

/-- The parts, in the order of their issues. -/
def RulePart.all : List RulePart := [.id, .selector, .replacement, .mode]

namespace Rule

/-- What the rule is called in its issues: its identity, unless that is blank. -/
def label (rule : Rule) : Option Text :=
  if Text.trim rule.id = [] then none else some rule.id

/-- The issue that is due at a part of a rule, given the rules before it. -/
def issueAt (earlier : List Rule) (rule : Rule) : RulePart → Option Issue
  | .id =>
    if Text.trim rule.id = [] then some (.missingField none "id")
    else if (earlier.map Rule.id).contains rule.id then some (.duplicateId rule.id)
    else none
  | .selector =>
    if Text.trim rule.selector = [] then some (.missingField rule.label "selector") else none
  | .replacement =>
    if Text.trim rule.replacement = [] then some (.missingField rule.label "replacement")
    else none
  | .mode =>
    match rule.mode with
    | none => none
    | some name =>
      if Mode.ofName? name = none then
        some (.invalidCombo rule.label (Mode.unsupportedMessage name))
      else none

theorem id?_eq (rule : Rule) : rule.id? = rule.label := by
  unfold id? label
  simp only [Text.isAllBlank_iff]

/-- `idIssues` is the check of the identity, for a pass that remembers the identities of the rules
before.  Blank ones it does not remember, and need not: they are no repetitions. -/
theorem idIssues_eq {seen : List Text} {earlier : List Rule} {rule : Rule}
    (hseen : Text.trim rule.id ≠ [] → (rule.id ∈ seen ↔ rule.id ∈ earlier.map Rule.id)) :
    rule.idIssues seen = (rule.issueAt earlier .id).toList := by
  unfold idIssues issueAt
  rw [id?_eq, label]
  by_cases hid : Text.trim rule.id = []
  · rw [if_pos hid, if_pos hid]
    rfl
  · rw [if_neg hid, if_neg hid]
    simp only [List.contains_iff_mem, hseen hid]
    split <;> rfl

/-- `blankIssues` is the check of a field that may not be blank. -/
theorem blankIssues_eq (rule : Rule) (field : String) (text : Text) :
    rule.blankIssues field text
      = (if Text.trim text = [] then some (Issue.missingField rule.label field)
        else none).toList := by
  unfold blankIssues
  simp only [Text.isAllBlank_iff, id?_eq]
  split <;> rfl

/-- `modeIssues` is the check of the mode, which does not look at earlier rules. -/
theorem modeIssues_eq (earlier : List Rule) (rule : Rule) :
    rule.modeIssues = (rule.issueAt earlier .mode).toList := by
  unfold modeIssues issueAt
  rw [id?_eq]
  cases rule.mode with
  | none => rfl
  | some name => cases hmode : Mode.ofName? name <;> simp [hmode]

/-- **One rule**: the checks list the issues that are due by `issueAt`, part by part. -/
theorem issues_eq {seen : List Text} {earlier : List Rule} {rule : Rule}
    (hseen : Text.trim rule.id ≠ [] → (rule.id ∈ seen ↔ rule.id ∈ earlier.map Rule.id)) :
    rule.issues seen = RulePart.all.filterMap (rule.issueAt earlier) := by
  rw [List.filterMap_eq_flatMap_toList, issues, idIssues_eq hseen, blankIssues_eq, blankIssues_eq,
    modeIssues_eq earlier]
  simp only [RulePart.all, List.flatMap_cons, List.flatMap_nil, List.append_nil,
    List.append_assoc]
  rfl

theorem label_eq_some_iff {rule : Rule} {id : Text} :
    rule.label = some id ↔ Text.trim id ≠ [] ∧ rule.id = id := by
  unfold label
  split
  next hid =>
    refine iff_of_false (by simp) ?_
    rintro ⟨hne, rfl⟩
    exact hne hid
  next hid =>
    rw [Option.some.injEq]
    exact ⟨fun h => ⟨h ▸ hid, h⟩, fun h => h.2⟩

end Rule

namespace RuleFile

/-- `issuesOf`, after `earlier` rules whose identities it has seen, lists what is due at each of the
rest.  What it has seen agrees with `earlier` on all identities but blank ones. -/
theorem issuesOf_eq {seen : List Text} {earlier : List Rule} (rest : List Rule)
    (hseen : ∀ id, Text.trim id ≠ [] → (id ∈ seen ↔ id ∈ earlier.map Rule.id)) :
    issuesOf seen rest = (rest.zipIdx earlier.length).flatMap fun entry =>
      RulePart.all.filterMap (entry.1.issueAt ((earlier ++ rest).take entry.2)) := by
  induction rest generalizing seen earlier with
  | nil => rfl
  | cons rule rest ih =>
    -- The rule joins those that the pass remembers, unless its identity is blank.
    have hseen' : ∀ id, Text.trim id ≠ [] →
        (id ∈ rule.id?.toList ++ seen ↔ id ∈ (earlier ++ [rule]).map Rule.id) := by
      intro id hid
      rw [Rule.id?_eq, List.mem_append, Option.mem_toList, Rule.label_eq_some_iff, hseen id hid,
        List.map_append, List.mem_append, List.map_singleton, List.mem_singleton, or_comm]
      simp only [hid, not_false_eq_true, ne_eq, true_and, eq_comm]
    have hrest := ih hseen'
    rw [List.length_append, List.length_singleton, List.append_assoc, List.singleton_append]
      at hrest
    rw [issuesOf, List.zipIdx_cons, List.flatMap_cons, hrest, Rule.issues_eq (hseen rule.id),
      List.take_left]

/-- **The issues of a file** are those that are due (`issueAt`), rule by rule and part by part. -/
theorem issues_eq (file : RuleFile) :
    file.issues = (if file.rules = [] then [.noRules] else []) ++
      file.rules.zipIdx.flatMap fun entry =>
        RulePart.all.filterMap (entry.1.issueAt (file.rules.take entry.2)) := by
  have hnone : ∀ id : Text, Text.trim id ≠ [] → (id ∈ ([] : List Text) ↔
      id ∈ ([] : List Rule).map Rule.id) := fun id _ => Iff.rfl
  rw [issues, issuesOf_eq file.rules hnone]
  simp only [List.isEmpty_iff]
  rfl

/-! ### Files without issues -/

/-- A file that can be used: it has rules, all of them complete, under distinct identities and in
modes that there are. -/
structure Valid (file : RuleFile) : Prop where
  nonempty : file.rules ≠ []
  id : ∀ rule ∈ file.rules, Text.trim rule.id ≠ []
  selector : ∀ rule ∈ file.rules, Text.trim rule.selector ≠ []
  replacement : ∀ rule ∈ file.rules, Text.trim rule.replacement ≠ []
  distinct : (file.rules.map Rule.id).Nodup
  mode : ∀ rule ∈ file.rules, ∀ name, rule.mode = some name → (Mode.ofName? name).isSome = true

end RuleFile

/-- `issueAt` finds nothing at a rule that is complete, new and in a mode that there is. -/
theorem Rule.issueAt_eq_none_iff {earlier : List Rule} {rule : Rule} :
    (∀ part ∈ RulePart.all, rule.issueAt earlier part = none) ↔
      (Text.trim rule.id ≠ [] ∧ rule.id ∉ earlier.map Rule.id) ∧
      Text.trim rule.selector ≠ [] ∧ Text.trim rule.replacement ≠ [] ∧
      ∀ name, rule.mode = some name → (Mode.ofName? name).isSome = true := by
  simp only [RulePart.all, List.forall_mem_cons, List.not_mem_nil, false_imp_iff, implies_true,
    and_true]
  refine and_congr ?_ (and_congr ?_ (and_congr ?_ ?_))
  · rw [issueAt]
    by_cases hid : Text.trim rule.id = []
    · simp [hid]
    · by_cases hnew : rule.id ∈ earlier.map Rule.id <;> simp [hid, hnew]
  · simp [issueAt]
  · simp [issueAt]
  · rw [issueAt]
    cases rule.mode with
    | none => simp
    | some name => simp [Option.isSome_iff_ne_none]

/-- Elements are distinct when none is among those before it. -/
theorem nodup_iff_notMem_take {α : Type} {elements : List α} :
    elements.Nodup ↔
      ∀ position x, elements[position]? = some x → x ∉ elements.take position := by
  rw [List.nodup_iff_getElem?_ne_getElem?]
  constructor
  · intro h position x hx hmem
    obtain ⟨earlier, hearlier⟩ := List.mem_iff_getElem?.mp hmem
    rw [List.getElem?_take] at hearlier
    split at hearlier
    next hlt =>
      exact h earlier position hlt (List.getElem?_eq_some_iff.mp hx).1 (hearlier.trans hx.symm)
    next => cases hearlier
  · intro h earlier position hlt hposition heq
    have hx := List.getElem?_eq_getElem hposition
    refine h position _ hx (List.mem_iff_getElem?.mpr ⟨earlier, ?_⟩)
    rw [List.getElem?_take, if_pos hlt, heq, hx]

namespace RuleFile

/-- **A file has no issues just when it is `Valid`.** -/
theorem issues_eq_nil_iff (file : RuleFile) : file.issues = [] ↔ file.Valid := by
  -- Being distinct, rule by rule: none has the identity of one before it.
  have hdistinct : (file.rules.map Rule.id).Nodup ↔
      ∀ position rule, file.rules[position]? = some rule →
        rule.id ∉ (file.rules.take position).map Rule.id := by
    rw [nodup_iff_notMem_take]
    simp only [List.getElem?_map, ← List.map_take]
    constructor
    · intro h position rule hrule
      exact h position rule.id (by rw [hrule]; rfl)
    · intro h position id hid
      obtain ⟨rule, hrule, rfl⟩ := Option.map_eq_some_iff.mp hid
      exact h position rule hrule
  have hempty : (if file.rules = [] then [Issue.noRules] else []) = [] ↔ file.rules ≠ [] := by
    split <;> simp_all
  rw [issues_eq, List.append_eq_nil_iff, List.flatMap_eq_nil_iff, hempty]
  simp only [List.filterMap_eq_nil_iff, Rule.issueAt_eq_none_iff, Prod.forall,
    List.mem_zipIdx_iff_getElem?]
  constructor
  · rintro ⟨hne, hrules⟩
    have hcomplete : ∀ rule ∈ file.rules, Text.trim rule.id ≠ [] ∧ Text.trim rule.selector ≠ [] ∧
        Text.trim rule.replacement ≠ [] ∧
        ∀ name, rule.mode = some name → (Mode.ofName? name).isSome = true := by
      intro rule hrule
      obtain ⟨position, hposition⟩ := List.mem_iff_getElem?.mp hrule
      obtain ⟨⟨hid, -⟩, hrest⟩ := hrules rule position hposition
      exact ⟨hid, hrest⟩
    exact ⟨hne, fun rule hrule => (hcomplete rule hrule).1,
      fun rule hrule => (hcomplete rule hrule).2.1,
      fun rule hrule => (hcomplete rule hrule).2.2.1,
      hdistinct.mpr fun position rule hposition => (hrules rule position hposition).1.2,
      fun rule hrule => (hcomplete rule hrule).2.2.2⟩
  · intro hvalid
    refine ⟨hvalid.nonempty, fun rule position hposition => ?_⟩
    have hrule := List.mem_of_getElem? hposition
    exact ⟨⟨hvalid.id rule hrule, hdistinct.mp hvalid.distinct position rule hposition⟩,
      hvalid.selector rule hrule, hvalid.replacement rule hrule, hvalid.mode rule hrule⟩

end RuleFile

/-! ### Repeated identities -/

/-- An identity is used again. -/
def Issue.isDuplicate : Issue → Bool
  | .duplicateId _ => true
  | _ => false

/-- A rule is a repetition once at most: when its identity is not blank and was met before. -/
theorem Rule.countP_isDuplicate (seen : List Text) (rule : Rule) :
    (rule.issues seen).countP Issue.isDuplicate
      = if rule.label.any (· ∈ seen) = true then 1 else 0 := by
  have hid : (rule.idIssues seen).countP Issue.isDuplicate
      = if rule.label.any (· ∈ seen) = true then 1 else 0 := by
    unfold idIssues
    rw [id?_eq]
    cases rule.label with
    | none => rfl
    | some id => by_cases hmem : id ∈ seen <;> simp [hmem, Issue.isDuplicate]
  have hblank : ∀ field text, (rule.blankIssues field text).countP Issue.isDuplicate = 0 := by
    intro field text
    unfold blankIssues
    split <;> rfl
  have hmode : rule.modeIssues.countP Issue.isDuplicate = 0 := by
    unfold modeIssues
    split
    · rfl
    · split <;> rfl
  simp only [issues, List.countP_append, hid, hblank, hmode, Nat.add_zero]

namespace RuleFile

/-- The identities that are not blank (`Rule.label`), in the order of the rules. -/
def givenIds (file : RuleFile) : List Text :=
  file.rules.filterMap Rule.label

/-- In a pass every identity is either new or a repetition.  The identities seen before count as
distinct ones too, so the invariant has them on both sides. -/
theorem countP_isDuplicate_issuesOf (seen : List Text) (rules : List Rule) :
    (issuesOf seen rules).countP Issue.isDuplicate
        + (seen ++ rules.filterMap Rule.label).toFinset.card
      = seen.toFinset.card + (rules.filterMap Rule.label).length := by
  induction rules generalizing seen with
  | nil => simp [issuesOf]
  | cons rule rest ih =>
    have hrest := ih (rule.id?.toList ++ seen)
    rw [issuesOf, List.countP_append, Rule.countP_isDuplicate]
    rw [Rule.id?_eq] at hrest ⊢
    cases hlabel : rule.label with
    | none =>
      -- A blank identity is neither remembered nor counted.
      rw [hlabel] at hrest
      rw [List.filterMap_cons_none hlabel]
      simpa using hrest
    | some id =>
      rw [hlabel] at hrest
      have hsame : (seen ++ id :: rest.filterMap Rule.label).toFinset
          = (id :: seen ++ rest.filterMap Rule.label).toFinset := by
        ext other
        simp only [List.mem_toFinset, List.mem_append, List.mem_cons]
        tauto
      have hcard : (id :: seen).toFinset.card
          = if id ∈ seen then seen.toFinset.card else seen.toFinset.card + 1 := by
        rw [List.toFinset_cons, Finset.card_insert_eq_ite]
        simp only [List.mem_toFinset]
      simp only [Option.toList_some, List.singleton_append, hcard] at hrest
      rw [List.filterMap_cons_some hlabel, List.length_cons, hsame]
      simp only [Option.any_some, decide_eq_true_eq, Option.toList_some, List.singleton_append]
      split
      next hmem =>
        rw [if_pos hmem] at hrest
        omega
      next hmem =>
        rw [if_neg hmem] at hrest
        omega

/-- **There are as many repetitions as identities that are not blank, less the distinct ones**
(`givenIds`). -/
theorem countP_isDuplicate_add_card (file : RuleFile) :
    file.issues.countP Issue.isDuplicate + file.givenIds.toFinset.card
      = file.givenIds.length := by
  have hnone : (if file.rules.isEmpty = true then [Issue.noRules] else []).countP
      Issue.isDuplicate = 0 := by
    split <;> rfl
  have hpass := countP_isDuplicate_issuesOf [] file.rules
  rw [List.nil_append, List.toFinset_nil, Finset.card_empty, Nat.zero_add] at hpass
  rw [issues, List.countP_append, hnone, Nat.zero_add]
  exact hpass

end RuleFile

/-! ### Modes in a run -/

section

variable {grammar : Grammar} {cache : SelectorCache} {source name : Text}

theorem replace_ne_mode_error (mode : Mode) (selector replacement : Text) :
    (replace grammar mode cache selector replacement source).1 ≠ .error (.mode name) := by
  unfold replace
  split
  · simp
  · split
    · simp
    · split <;> simp

/-- A rule fails for its mode only where there is no such mode (`Mode.ofName?`). -/
theorem Rule.unsupported_of_replace {rule : Rule}
    (h : (rule.replace grammar cache source).1 = .error (.mode name)) :
    rule.mode = some name ∧ Mode.ofName? name = none := by
  unfold Rule.replace withMode at h
  split at h
  · exact absurd h (replace_ne_mode_error _ _ _)
  next given hgiven =>
    split at h
    · exact absurd h (replace_ne_mode_error _ _ _)
    next hmode =>
      obtain rfl : given = name := Error.mode.inj (Except.error.inj h)
      exact ⟨hgiven, hmode⟩

/-- A failure is reported as it is, by `Rule.report`. -/
theorem Rule.eq_error_of_report {rule : Rule} {result : Except Error Outcome} {error : Error}
    (h : (rule.report source result).1.result = .error error) : result = .error error := by
  cases result with
  | error other => exact congrArg Except.error (Except.error.inj h)
  | ok outcome =>
    rw [Rule.report] at h
    split at h <;> cases h

/-- In a run only a rule whose mode there is not fails for its mode.  The cache may be any: the mode
is looked up before it is asked. -/
theorem exists_rule_of_mode_error {rules : List Rule} {report : RuleReport}
    (hreport : report ∈ (applyRules grammar cache source rules).1.reports)
    (h : report.result = .error (.mode name)) :
    ∃ rule ∈ rules, rule.mode = some name ∧ Mode.ofName? name = none := by
  induction rules generalizing cache source with
  | nil => cases hreport
  | cons rule rest ih =>
    rw [applyRules] at hreport
    dsimp only at hreport
    rcases List.mem_cons.mp hreport with rfl | hrest
    · exact ⟨rule, List.mem_cons_self, Rule.unsupported_of_replace (Rule.eq_error_of_report h)⟩
    · obtain ⟨other, hother, hmode⟩ := ih hrest
      exact ⟨other, List.mem_cons_of_mem _ hother, hmode⟩

end

/-- **The issues of a rule file are exact.**

* A file has none just when it is valid.
* They are those due, in the order of the rules and for each rule in the order identity, selector,
  replacement, mode; before them all stands the issue of a file without rules.
* There are as many repetitions as identities that are not blank, less the distinct ones.
* In a file without issues no rule ever fails for its mode, whatever it is run on. -/
theorem RuleFile.issues_exact (file : RuleFile) :
    (file.issues = [] ↔ file.Valid) ∧
    file.issues = (if file.rules = [] then [.noRules] else []) ++
      file.rules.zipIdx.flatMap (fun entry =>
        RulePart.all.filterMap (entry.1.issueAt (file.rules.take entry.2))) ∧
    file.issues.countP Issue.isDuplicate + file.givenIds.toFinset.card = file.givenIds.length ∧
    (file.issues = [] → ∀ (grammar : Grammar) (cache : SelectorCache) (source : Text),
      ∀ report ∈ (applyRules grammar cache source file.rules).1.reports,
        ∀ name, report.result ≠ .error (.mode name)) := by
  refine ⟨file.issues_eq_nil_iff, file.issues_eq, file.countP_isDuplicate_add_card, ?_⟩
  intro hnone grammar cache source report hreport name hresult
  obtain ⟨rule, hrule, hname, hmode⟩ := exists_rule_of_mode_error hreport hresult
  have hsome := (file.issues_eq_nil_iff.mp hnone).mode rule hrule name hname
  rw [hmode] at hsome
  cases hsome

namespace Sample

/-- A rule for names, with this `id` and this `mode`. -/
def renames (id : String) (mode : Option Text) : Rule :=
  ⟨id.toList, "Identifier".toList, "x".toList, mode, none⟩

/-- An identity used twice, once without a selector, then a rule without identity and replacement,
and one in a mode that there is not. -/
def faultyRules : RuleFile where
  rules := [renames "a" none, { renames "a" none with selector := " ".toList },
    { renames "" none with replacement := [] }, renames "c" (some "xpath".toList)]

/-- Rules in a mode under two of its names. -/
def soundRules : RuleFile where
  rules := [renames "a" (some " CSS".toList), renames "b" (some "esquery".toList)]

end Sample

/-- Five issues in order, one of them a repetition; and none, where no rule fails for its mode. -/
theorem RuleFile.issues_exact_five :
    Sample.faultyRules.issues = [.duplicateId "a".toList,
      .missingField (some "a".toList) "selector", .missingField none "id",
      .missingField none "replacement",
      .invalidCombo (some "c".toList) (Mode.unsupportedMessage "xpath".toList)] ∧
    Sample.faultyRules.issues.countP Issue.isDuplicate = 1 ∧ ¬ Sample.faultyRules.Valid ∧
    Sample.soundRules.Valid ∧
    ∀ (grammar : Grammar) (source : Text),
      ∀ report ∈ (applyRules grammar {} source Sample.soundRules.rules).1.reports,
        ∀ name, report.result ≠ .error (.mode name) := by
  obtain ⟨hvalid, hissues, hcount, -⟩ := issues_exact Sample.faultyRules
  obtain ⟨hsound, -, -, hmodes⟩ := issues_exact Sample.soundRules
  have hnone : Sample.soundRules.issues = [] := rfl
  have hcard : Sample.faultyRules.givenIds.toFinset.card = 2 := by decide +kernel
  have hlength : Sample.faultyRules.givenIds.length = 3 := by decide +kernel
  refine ⟨hissues, by omega, fun h => ?_, hsound.mp hnone,
    fun grammar source => hmodes hnone grammar {} source⟩
  cases hissues.symm.trans (hvalid.mpr h)

end SyntaxGraft
