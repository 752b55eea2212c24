import SyntaxGraft.Replace
import SyntaxGraft.Rules.Basic
/-!
# Applying rules

The rules of a file run in order, each on the text that the one before left.  A rule that fails, or
that matches nothing, leaves the text as it was, and the rules after it still run.
-/

namespace SyntaxGraft

/-- What became of a rule that did not fail. -/
inductive RuleOutcome where
  /-- So many nodes were replaced, one at least. -/
  | applied (replacements : Nat)
  | noMatch

namespace RuleOutcome

/-- The outcome in words. -/
def message : RuleOutcome → String
  | .applied replacements => s!"applied ({replacements} replacements)"
  | .noMatch => "no match"

/-- The number of replacements. -/
def replacements : RuleOutcome → Nat
  | .applied replacements => replacements
  | .noMatch => 0

end RuleOutcome

/-- What became of a rule. -/
structure RuleReport where
  id : Text
  result : Except Error RuleOutcome

/-- The text after all rules, with a report for each in order. -/
structure RulesApplied where
  output : Text
  reports : List RuleReport

namespace RulesApplied

/-- The rules that failed, with their errors, in order. -/
def failures (applied : RulesApplied) : List (Text × Error) :=
  applied.reports.filterMap fun report =>
    match report.result with
    | .ok _ => none
    | .error error => some (report.id, error)

/-- The number of replacements of all rules. -/
def replacements (applied : RulesApplied) : Nat :=
  applied.reports.foldr (fun report total =>
    match report.result with
    | .ok outcome => outcome.replacements + total
    | .error _ => total) 0

end RulesApplied

namespace Rule

/-- The source after the replacement that a rule asks for. -/
def replace (rule : Rule) (grammar : Grammar) (cache : SelectorCache) (source : Text) :
    Except Error Outcome × SelectorCache :=
  withMode rule.mode cache fun mode =>
    SyntaxGraft.replace grammar mode cache rule.selector rule.replacement source

/-- The report of a rule that was run on a source, and the text after it. -/
def report (rule : Rule) (source : Text) : Except Error Outcome → RuleReport × Text
  | .error error => (⟨rule.id, .error error⟩, source)
  | .ok outcome =>
    if outcome.replacements = 0 then (⟨rule.id, .ok .noMatch⟩, source)
    else (⟨rule.id, .ok (.applied outcome.replacements)⟩, outcome.output)

end Rule

/-- The rules run in order on a source. -/
def applyRules (grammar : Grammar) (cache : SelectorCache) (source : Text) :
    List Rule → RulesApplied × SelectorCache
  | [] => (⟨source, []⟩, cache)
  | rule :: rest =>
    let (result, cache) := rule.replace grammar cache source
    let (report, text) := rule.report source result
    let (applied, cache) := applyRules grammar cache text rest
    (⟨applied.output, report :: applied.reports⟩, cache)

end SyntaxGraft
