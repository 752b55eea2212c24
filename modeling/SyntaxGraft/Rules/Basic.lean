import SyntaxGraft.Mode
/-!
# Rules

A rule file holds a name, a description and rules in order.  `RuleFile.issues` lists everything
that is wrong with it: rule by rule, and within a rule in the order identity, selector,
replacement, mode.
-/

namespace SyntaxGraft

/-- One replacement that a rule file asks for. -/
structure Rule where
  id : Text
  selector : Text
  replacement : Text
  mode : Option Text := none
  description : Option Text := none

/-- The rules of a file. -/
structure RuleFile where
  name : Text := []
  description : Option Text := none
  rules : List Rule

/-! ### Issues -/

/-- Something wrong with a rule file; a rule is named by its identity unless that is blank. -/
inductive Issue where
  | noRules
  | missingField (rule : Option Text) (field : String)
  | duplicateId (rule : Text)
  | invalidCombo (rule : Option Text) (reason : String)

namespace Issue

/-- The issue in words. -/
def message : Issue → String
  | .noRules => "rule file contains no rules"
  | .missingField (some rule) field =>
    let id := String.ofList rule
    s!"rule '{id}' missing required field '{field}'"
  | .missingField none field => s!"rule missing required field '{field}'"
  | .duplicateId rule =>
    let id := String.ofList rule
    s!"rule id '{id}' is used more than once"
  | .invalidCombo (some rule) reason =>
    let id := String.ofList rule
    s!"rule '{id}' has invalid configuration: {reason}"
  | .invalidCombo none reason => s!"invalid rule configuration: {reason}"

/-- The issues in words, one on each line. -/
def messages (issues : List Issue) : String :=
  "\n".intercalate (issues.map message)

end Issue

namespace Rule

/-- The identity by which the rule is named, unless it is blank. -/
def id? (rule : Rule) : Option Text :=
  if Text.isAllBlank rule.id then none else some rule.id

/-- What is wrong with the identity, given those of the rules before. -/
def idIssues (seen : List Text) (rule : Rule) : List Issue :=
  match rule.id? with
  | none => [.missingField none "id"]
  | some id => if seen.contains id then [.duplicateId id] else []

/-- A field that is blank. -/
def blankIssues (rule : Rule) (field : String) (text : Text) : List Issue :=
  if Text.isAllBlank text then [.missingField rule.id? field] else []

/-- A mode that is not supported. -/
def modeIssues (rule : Rule) : List Issue :=
  match rule.mode with
  | none => []
  | some name =>
    match Mode.ofName? name with
    | some _ => []
    | none => [.invalidCombo rule.id? (Mode.unsupportedMessage name)]

/-- Everything that is wrong with the rule, given the identities of the rules before. -/
def issues (seen : List Text) (rule : Rule) : List Issue :=
  rule.idIssues seen ++ rule.blankIssues "selector" rule.selector
    ++ rule.blankIssues "replacement" rule.replacement ++ rule.modeIssues

end Rule

namespace RuleFile

/-- The issues of rules, given the identities of the rules before. -/
def issuesOf (seen : List Text) : List Rule → List Issue
  | [] => []
  | rule :: rest => rule.issues seen ++ issuesOf (rule.id?.toList ++ seen) rest

/-- Everything that is wrong with the file. -/
def issues (file : RuleFile) : List Issue :=
  (if file.rules.isEmpty then [.noRules] else []) ++ issuesOf [] file.rules

end RuleFile

end SyntaxGraft
