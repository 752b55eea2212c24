import SyntaxGraft.Proofs.Parse.Conversion
import SyntaxGraft.Proofs.Selector.Cache
import SyntaxGraft.Rules.Apply
/-!
# Runs of rules

A run threads two things through its rules: the text, and the cache of compiled selectors.  The
cache can be left out (`applyRules_fst`): what a rule reports depends on the text before it alone.
So a run of rules is a run of the first ones and then of the others on what these left
(`reportsOf_append`), and a rule that failed or matched nothing, which leaves the text alone, can be
taken out of the list (`reportsOf_keepAt`).
-/

namespace SyntaxGraft

/-! ### Replacing through a cache -/

section

variable {grammar : Grammar} {cache other : SelectorCache}

/-- What `replace` gives does not depend on what was compiled before: any two caches that compiling
reaches agree on every selector. -/
theorem replace_fst_eq (hcache : cache.Reached) (hother : other.Reached) (mode : Mode)
    (selector replacement source : Text) :
    (replace grammar mode cache selector replacement source).1
      = (replace grammar mode other selector replacement source).1 := by
  have hsame : (cache.compile selector).1.map Compiled.selector
      = (other.compile selector).1.map Compiled.selector := by
    rw [hcache.map_selector_compile, hother.map_selector_compile]
  cases mode
  unfold replace Mode.compile
  generalize cache.compile selector = found at hsame ⊢
  generalize other.compile selector = foundThere at hsame ⊢
  -- Both caches refuse the selector with one error, or both hand out one selector.
  rcases found with ⟨_ | compiled, _⟩ <;> rcases foundThere with ⟨_ | twin, _⟩
  · obtain rfl := Except.error.inj hsame
    rfl
  · cases hsame
  · cases hsame
  · have hselector : compiled.selector = twin.selector := Except.ok.inj hsame
    dsimp only
    rw [hselector]
    cases Fragment.parse grammar replacement with
    | error error => rfl
    | ok fragment =>
      dsimp only
      cases twin.selector.replace grammar fragment source <;> rfl

/-- `replace` leaves the cache that compiling the selector leaves, also where it fails after. -/
theorem replace_snd (grammar : Grammar) (mode : Mode) (cache : SelectorCache)
    (selector replacement source : Text) :
    (replace grammar mode cache selector replacement source).2 = (cache.compile selector).2 := by
  cases mode
  unfold replace Mode.compile
  rcases cache.compile selector with ⟨_ | compiled, after⟩
  · rfl
  · dsimp only
    cases Fragment.parse grammar replacement with
    | error error => rfl
    | ok fragment =>
      dsimp only
      cases compiled.selector.replace grammar fragment source <;> rfl

namespace Rule

theorem replace_fst_eq (rule : Rule) (hcache : cache.Reached) (hother : other.Reached)
    (source : Text) :
    (rule.replace grammar cache source).1 = (rule.replace grammar other source).1 := by
  unfold Rule.replace withMode
  cases rule.mode with
  | none => exact SyntaxGraft.replace_fst_eq hcache hother _ _ _ _
  | some name =>
    dsimp only
    cases Mode.ofName? name with
    | none => rfl
    | some mode => exact SyntaxGraft.replace_fst_eq hcache hother _ _ _ _

theorem reached_replace (rule : Rule) (hcache : cache.Reached) (source : Text) :
    (rule.replace grammar cache source).2.Reached := by
  unfold Rule.replace withMode
  cases rule.mode with
  | none =>
    dsimp only
    rw [replace_snd]
    exact hcache.compile _
  | some name =>
    dsimp only
    cases Mode.ofName? name with
    | none => exact hcache
    | some mode =>
      dsimp only
      rw [replace_snd]
      exact hcache.compile _

end Rule

end

/-! ### Reports -/

/-- The rule failed or matched nothing: its result is an error or `noMatch`. -/
def RuleReport.Idle (report : RuleReport) : Prop :=
  (∃ error, report.result = .error error) ∨ report.result = .ok .noMatch

/-- The number of replacements reported, none for an `error`. -/
def RuleReport.count (report : RuleReport) : Nat :=
  match report.result with
  | .ok (.applied replacements) => replacements
  | _ => 0

/-- The rule failed: its `result` is an error. -/
def RuleReport.failed (report : RuleReport) : Bool :=
  match report.result with
  | .ok _ => false
  | .error _ => true

/-- **What a report says.**  The result is what replacing gave: an error, or no match where nothing
was replaced, or the number of replacements.  Only in the last case the text changes, from `before`
to `after`. -/
def RuleReport.Tells (report : RuleReport) (before : Text) (result : Except Error Outcome)
    (after : Text) : Prop :=
  (∃ error, result = .error error ∧ report.result = .error error ∧ after = before) ∨
  (∃ outcome, result = .ok outcome ∧ outcome.replacements = 0 ∧ report.result = .ok .noMatch ∧
    after = before) ∨
  ∃ outcome, result = .ok outcome ∧ 1 ≤ outcome.replacements ∧
    report.result = .ok (.applied outcome.replacements) ∧ after = outcome.output

namespace Rule

@[simp]
theorem id_report (rule : Rule) (source : Text) (result : Except Error Outcome) :
    (rule.report source result).1.id = rule.id := by
  unfold report
  cases result with
  | error error => rfl
  | ok outcome =>
    dsimp only
    split <;> rfl

theorem tells_report (rule : Rule) (source : Text) (result : Except Error Outcome) :
    (rule.report source result).1.Tells source result (rule.report source result).2 := by
  unfold report
  cases result with
  | error error => exact Or.inl ⟨error, rfl, rfl, rfl⟩
  | ok outcome =>
    dsimp only
    split
    next hnone => exact Or.inr (Or.inl ⟨outcome, rfl, hnone, rfl, rfl⟩)
    next hsome => exact Or.inr (Or.inr ⟨outcome, rfl, Nat.pos_of_ne_zero hsome, rfl, rfl⟩)

end Rule

/-- A rule whose report is `Idle` leaves the text as it was. -/
theorem RuleReport.Tells.eq_of_idle {report : RuleReport} {before after : Text}
    {result : Except Error Outcome} (h : report.Tells before result after) (hidle : report.Idle) :
    after = before := by
  rcases h with ⟨_, _, _, hafter⟩ | ⟨_, _, _, _, hafter⟩ | ⟨outcome, _, _, happlied, _⟩
  · exact hafter
  · exact hafter
  · rcases hidle with ⟨error, herror⟩ | hnone
    · rw [happlied] at herror
      cases herror
    · rw [happlied] at hnone
      cases hnone

/-- A rule is reported as `applied` only if it replaced something. -/
theorem RuleReport.Tells.one_le_of_applied {report : RuleReport} {before after : Text}
    {result : Except Error Outcome} {count : Nat} (h : report.Tells before result after)
    (happlied : report.result = .ok (.applied count)) : 1 ≤ count := by
  rcases h with ⟨_, _, hresult, _⟩ | ⟨_, _, _, hresult, _⟩ | ⟨outcome, _, hone, hresult, _⟩
  · rw [happlied] at hresult
    cases hresult
  · rw [happlied] at hresult
    cases hresult
  · rw [happlied] at hresult
    obtain rfl := RuleOutcome.applied.inj (Except.ok.inj hresult)
    exact hone

/-! ### Runs without a cache -/

/-- The report (`Rule.report`) of a rule on a text, with the text after it, when nothing was
compiled before. -/
def Rule.reportOn (rule : Rule) (grammar : Grammar) (source : Text) : RuleReport × Text :=
  rule.report source (rule.replace grammar {} source).1

/-- The text that rules leave, each run by `reportOn`. -/
def textAfter (grammar : Grammar) (source : Text) (rules : List Rule) : Text :=
  rules.foldl (fun text rule => (rule.reportOn grammar text).2) source

/-- The reports of rules, each on the text that those before it leave. -/
def reportsOf (grammar : Grammar) (source : Text) : List Rule → List RuleReport
  | [] => []
  | rule :: rest =>
    (rule.reportOn grammar source).1 :: reportsOf grammar (rule.reportOn grammar source).2 rest

/-- The elements at the positions that `keep` says. -/
def keepAt {α : Type} (keep : Nat → Bool) : List α → List α
  | [] => []
  | first :: rest =>
    if keep 0 then first :: keepAt (fun position => keep (position + 1)) rest
    else keepAt (fun position => keep (position + 1)) rest

variable {grammar : Grammar} {source : Text}

/-- **The cache is invisible.**  `applyRules` gives the text and the reports of the run without a
cache. -/
theorem applyRules_fst {cache : SelectorCache} (hcache : cache.Reached) (source : Text)
    (rules : List Rule) :
    (applyRules grammar cache source rules).1
      = ⟨textAfter grammar source rules, reportsOf grammar source rules⟩ := by
  -- Both change from rule to rule, and that the cache is `Reached` is what carries over.
  induction rules generalizing cache source with
  | nil => rfl
  | cons rule rest ih =>
    have hreport : rule.report source (rule.replace grammar cache source).1
        = rule.reportOn grammar source := by
      rw [Rule.reportOn, rule.replace_fst_eq hcache .empty source]
    rw [applyRules]
    dsimp only
    rw [hreport, ih (rule.reached_replace hcache source)]
    rfl

theorem textAfter_append (first second : List Rule) :
    textAfter grammar source (first ++ second)
      = textAfter grammar (textAfter grammar source first) second :=
  List.foldl_append

theorem reportsOf_append (first second : List Rule) :
    reportsOf grammar source (first ++ second)
      = reportsOf grammar source first
        ++ reportsOf grammar (textAfter grammar source first) second := by
  induction first generalizing source with
  | nil => rfl
  | cons rule rest ih =>
    rw [List.cons_append, reportsOf, ih]
    rfl

theorem map_id_reportsOf (rules : List Rule) :
    (reportsOf grammar source rules).map RuleReport.id = rules.map Rule.id := by
  induction rules generalizing source with
  | nil => rfl
  | cons rule rest ih =>
    rw [reportsOf, List.map_cons, List.map_cons, ih, Rule.reportOn, Rule.id_report]

/-- The report at a position is the one of the rule there, on the text that the rules before it
leave. -/
theorem getElem?_reportsOf (rules : List Rule) (position : Nat) :
    (reportsOf grammar source rules)[position]?
      = rules[position]?.map fun rule =>
        (rule.reportOn grammar (textAfter grammar source (rules.take position))).1 := by
  induction rules generalizing source position with
  | nil => rfl
  | cons rule rest ih =>
    cases position with
    | zero => rfl
    | succ position =>
      rw [reportsOf, List.getElem?_cons_succ, List.getElem?_cons_succ, List.take_succ_cons, ih]
      rfl

theorem exists_of_mem_reportsOf {rules : List Rule} {report : RuleReport}
    (h : report ∈ reportsOf grammar source rules) :
    ∃ (rule : Rule) (before : Text), report = (rule.reportOn grammar before).1 := by
  obtain ⟨position, hposition⟩ := List.mem_iff_getElem?.mp h
  rw [getElem?_reportsOf] at hposition
  obtain ⟨rule, -, rfl⟩ := Option.map_eq_some_iff.mp hposition
  exact ⟨rule, _, rfl⟩

/-- The text after the first rules (`List.take`) is what the last of them leaves. -/
theorem textAfter_take_succ {rules : List Rule} {position : Nat} {rule : Rule}
    (h : rules[position]? = some rule) :
    textAfter grammar source (rules.take (position + 1))
      = (rule.reportOn grammar (textAfter grammar source (rules.take position))).2 := by
  rw [List.take_add_one, h, textAfter_append]
  rfl

/-- **Idle rules can be taken out.**  The text after the run and the other reports stay.  `keep`
speaks of positions, since two rules of a list may be the same. -/
theorem reportsOf_keepAt (keep : Nat → Bool) (rules : List Rule)
    (h : ∀ position report, (reportsOf grammar source rules)[position]? = some report →
      keep position = false → report.Idle) :
    textAfter grammar source (keepAt keep rules) = textAfter grammar source rules ∧
      reportsOf grammar source (keepAt keep rules)
        = keepAt keep (reportsOf grammar source rules) := by
  induction rules generalizing keep source with
  | nil => exact ⟨rfl, rfl⟩
  | cons rule rest ih =>
    have hrest : ∀ position report,
        (reportsOf grammar (rule.reportOn grammar source).2 rest)[position]? = some report →
          keep (position + 1) = false → report.Idle :=
      fun position report hreport hgone => h (position + 1) report hreport hgone
    obtain ⟨htext, hreports⟩ := ih (fun position => keep (position + 1)) hrest
    rw [keepAt, reportsOf, keepAt]
    by_cases hkeep : keep 0 = true
    · rw [if_pos hkeep, if_pos hkeep, reportsOf, hreports]
      exact ⟨htext, rfl⟩
    · -- The rule that goes left the text as it was, so the others start from the same text.
      have hidle : (rule.reportOn grammar source).1.Idle :=
        h 0 _ rfl (Bool.not_eq_true _ ▸ hkeep)
      have hsource : (rule.reportOn grammar source).2 = source :=
        (rule.tells_report source _).eq_of_idle hidle
      rw [if_neg hkeep, if_neg hkeep]
      rw [hsource] at htext hreports ⊢
      exact ⟨htext.trans (congrArg (textAfter grammar · rest) hsource.symm), hreports⟩

/-! ### What is counted over a run -/

/-- The numbers of replacements are summed up over the reports. -/
theorem RulesApplied.replacements_eq (applied : RulesApplied) :
    applied.replacements = (applied.reports.map RuleReport.count).sum := by
  obtain ⟨output, reports⟩ := applied
  induction reports with
  | nil => rfl
  | cons report rest ih =>
    rw [List.map_cons, List.sum_cons, ← ih]
    obtain ⟨id, result⟩ := report
    cases result with
    | error error => exact (Nat.zero_add _).symm
    | ok outcome => cases outcome <;> rfl

/-- The failures carry the identities of the rules that failed, in the order of the rules. -/
theorem map_fst_failures (output : Text) (rules : List Rule) :
    (RulesApplied.failures ⟨output, reportsOf grammar source rules⟩).map Prod.fst
      = ((rules.zip (reportsOf grammar source rules)).filter fun pair => pair.2.failed).map
        fun pair => pair.1.id := by
  induction rules generalizing source with
  | nil => rfl
  | cons rule rest ih =>
    have hid : (rule.reportOn grammar source).1.id = rule.id := rule.id_report _ _
    rw [reportsOf, List.zip_cons_cons, List.filter_cons]
    generalize rule.reportOn grammar source = reported at hid ⊢
    obtain ⟨⟨id, result⟩, text⟩ := reported
    cases result with
    | error error => exact congrArg₂ List.cons hid ih
    | ok outcome => exact ih

/-! ### The law of runs -/

/-- **Runs compose, and idle rules can be erased.**  Whatever was compiled before, here or in the
runs compared with:

* a run of a list of rules is a run of a first part and then of the rest on the text which that
  part left, reports included, with one report for each rule, under its identity;
* without any of the rules that failed or matched nothing, the run ends with the same text and the
  same other reports;
* each rule is reported as replacing goes on the text that the rules before it left, and only a
  rule that replaced something, once at least, changes the text;
* the failures are the rules that failed, in order, and the replacements add up. -/
theorem applyRules_composes {cache other : SelectorCache} (hcache : cache.Reached)
    (hother : other.Reached) (grammar : Grammar) (source : Text) (rules : List Rule) :
    let run := fun (text : Text) (rules : List Rule) => (applyRules grammar other text rules).1
    let applied := (applyRules grammar cache source rules).1
    (∀ first second, first ++ second = rules →
      applied.output = (run (run source first).output second).output ∧
      applied.reports
        = (run source first).reports ++ (run (run source first).output second).reports) ∧
    applied.reports.map RuleReport.id = rules.map Rule.id ∧
    (∀ keep : Nat → Bool,
      (∀ position report, applied.reports[position]? = some report →
        keep position = false → report.Idle) →
      (run source (keepAt keep rules)).output = applied.output ∧
      (run source (keepAt keep rules)).reports = keepAt keep applied.reports) ∧
    (∀ position rule, rules[position]? = some rule →
      let before := (run source (rules.take position)).output
      let after := (run source (rules.take (position + 1))).output
      ∃ report, applied.reports[position]? = some report ∧
        report.Tells before (rule.replace grammar other before).1 after) ∧
    (∀ report ∈ applied.reports, ∀ count,
      report.result = .ok (.applied count) → 1 ≤ count) ∧
    applied.failures.map Prod.fst
      = ((rules.zip applied.reports).filter fun pair => pair.2.failed).map
        (fun pair => pair.1.id) ∧
    applied.replacements = (applied.reports.map RuleReport.count).sum := by
  intro run applied
  have hrun : ∀ text rules,
      run text rules = ⟨textAfter grammar text rules, reportsOf grammar text rules⟩ :=
    fun text rules => applyRules_fst hother text rules
  have happlied : applied = ⟨textAfter grammar source rules, reportsOf grammar source rules⟩ :=
    applyRules_fst hcache source rules
  simp only [hrun]
  refine ⟨?_, ?_, ?_, ?_, ?_, ?_, applied.replacements_eq⟩
  · rintro first second rfl
    rw [happlied]
    exact ⟨textAfter_append first second, reportsOf_append first second⟩
  · rw [happlied]
    exact map_id_reportsOf rules
  · intro keep hkeep
    rw [happlied] at hkeep ⊢
    exact reportsOf_keepAt keep rules hkeep
  · -- The report at a position is made on `before`, and `after` is what it comes with.
    intro position rule hrule
    set before := textAfter grammar source (rules.take position)
    refine ⟨(rule.reportOn grammar before).1, ?_, ?_⟩
    · rw [happlied]
      exact (getElem?_reportsOf rules position).trans (by rw [hrule]; rfl)
    · rw [rule.replace_fst_eq hother .empty before, textAfter_take_succ hrule]
      exact rule.tells_report before _
  · intro report hreport count hcount
    rw [happlied] at hreport
    obtain ⟨rule, before, rfl⟩ := exists_of_mem_reportsOf hreport
    exact (rule.tells_report before _).one_le_of_applied hcount
  · rw [happlied]
    exact map_fst_failures _ rules

namespace Sample

/-- A rule whose selector has no end, before one that replaces calls by a sum. -/
def rules : List Rule :=
  [⟨"open".toList, "[".toList, sum, none, none⟩, ⟨"calls".toList, calls, sum, none, none⟩]

end Sample

/-- Without the rule that failed, the other still turns the product into one with a sum. -/
theorem applyRules_without_broken_rule :
    let applied := (applyRules Sample.grammar {} Sample.product Sample.rules).1
    SelectorCache.Reached {} ∧ applied.output = "a * (c + d)".toList ∧
      applied.failures.map Prod.fst = ["open".toList] ∧
      (applyRules Sample.grammar {} Sample.product (Sample.rules.drop 1)).1.output
        = applied.output := by
  intro applied
  obtain ⟨-, -, herase, -, -, hfailures, -⟩ :=
    applyRules_composes .empty .empty Sample.grammar Sample.product Sample.rules
  refine ⟨.empty, rfl, hfailures, (herase (fun position => position != 0) ?_).1⟩
  intro position report hreport hgone
  obtain rfl : position = 0 := by simpa using hgone
  obtain rfl := Option.some.inj hreport
  exact Or.inl ⟨_, rfl⟩

end SyntaxGraft
