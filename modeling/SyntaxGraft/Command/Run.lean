import SyntaxGraft.Command.Input
import SyntaxGraft.Command.Listing
import SyntaxGraft.Diff.Lines
import SyntaxGraft.Replace
import SyntaxGraft.Rules.Apply
import SyntaxGraft.Rules.Load
import SyntaxGraft.Store.WritePlan
/-!
# Running a command

A command first looks at its mode, selector, replacement or rule file, and then at the directories
it is given; a fault in these ends the run before any input is read.  Then it takes the inputs one
after the other.  A fault in one of them is reported, and the others are taken as if it were not
there.
-/

namespace SyntaxGraft.Command

/-- What was printed, and how much went wrong. -/
structure Report where
  output : Text := []
  errors : Text := []
  failures : Nat := 0

namespace Report

/-- One report after the other. -/
def append (first second : Report) : Report :=
  ⟨first.output ++ second.output, first.errors ++ second.errors, first.failures + second.failures⟩

instance : Append Report := ⟨append⟩

/-- Nothing went wrong. -/
def ofOutput (output : Text) : Report := { output }

/-- The report of a fault. -/
def ofFault (message : String) : Report :=
  { errors := "error: ".toList ++ message.toList ++ ['\n'], failures := 1 }

/-- The report of a fault in an input. -/
def ofInputFault (label : Text) (message : String) : Report :=
  let shown := String.ofList label
  ofFault s!"{shown}: {message}"

/-- The exit code: zero if nothing went wrong. -/
def exitCode (report : Report) : Nat :=
  if report.failures = 0 then 0 else 1

end Report

/-- A message with that of the error it comes from. -/
def withCause (message : String) : Option String → String
  | none => message
  | some cause => s!"{message}: {cause}"

/-! ### Inputs one after the other -/

/-- What comes of each input, taken in order. -/
def forInputs (step : Sources → Input → Report × Sources) (sources : Sources) :
    List Input → Report × Sources
  | [] => ({}, sources)
  | input :: rest =>
    let (report, sources) := step sources input
    let (others, sources) := forInputs step sources rest
    (report ++ others, sources)

/-! ### Searching -/

/-- The matches in one input. -/
def searchInput (grammar : Grammar) (selector : Selector) (sources : Sources) (input : Input) :
    Except String (List Node) × Sources :=
  match input.read sources with
  | (.error message, sources) => (.error message, sources)
  | (.ok text, sources) =>
    match Tree.parse grammar text with
    | .error error => (.error error.message, sources)
    | .ok tree => (.ok (selector.evaluate tree), sources)

/-- The matches in each input that has no fault, and a report of the faults. -/
def searchInputs (grammar : Grammar) (selector : Selector) (sources : Sources) :
    List Input → (List Found × Report) × Sources
  | [] => (([], {}), sources)
  | input :: rest =>
    let (result, sources) := searchInput grammar selector sources input
    let ((found, report), sources) := searchInputs grammar selector sources rest
    match result with
    | .ok nodes => ((⟨input.label, nodes⟩ :: found, report), sources)
    | .error message => ((found, .ofInputFault input.label message ++ report), sources)

/-- A search. -/
def runSearch (grammar : Grammar) (selector mode : Text) (listing : Listing) (paths : List Text)
    (sources : Sources) : Report × Sources :=
  match Mode.ofName? mode with
  | none => (.ofFault (Mode.unsupportedMessage mode), sources)
  | some .selector =>
    match Selector.compile selector with
    | .error error => (.ofFault error.message, sources)
    | .ok selector =>
      match collect sources.store paths with
      | .error error => (.ofFault (withCause error.message error.cause), sources)
      | .ok inputs =>
        let ((found, report), sources) := searchInputs grammar selector sources inputs
        (.ofOutput (listing.render found) ++ report, sources)

/-! ### Changing inputs -/

/-- The change of a file as it is shown. -/
def showChange (path before after : Text) : Text :=
  "--- ".toList ++ path ++ " (original)\n".toList
    ++ "+++ ".toList ++ path ++ " (rewritten)\n".toList
    ++ Diff.render before after

/-- What is said of a file that was written. -/
def showRewrite (path : Text) (replacements : Nat) : Text :=
  "Rewrote ".toList ++ path ++ " (".toList ++ Number.decimal replacements
    ++ " replacements)\n".toList

/-- The changed text of an input: the standard input is printed, a file is shown or written if it
changes. -/
def emit (write : Bool) (sources : Sources) (input : Input) (before after : Text)
    (replacements : Nat) : Report × Sources :=
  match input with
  | .standard => (.ofOutput after, sources)
  | .file path =>
    if before = after then ({}, sources)
    else if !write then (.ofOutput (showChange path before after), sources)
    else
      match (WritePlan.ofTexts path before after).apply sources.store with
      | (.ok (.written _), store) =>
        (.ofOutput (showRewrite path replacements), { sources with store })
      | (.ok .unchanged, store) =>
        (.ofOutput ("Unchanged ".toList ++ path ++ ['\n']), { sources with store })
      | (.error error, store) =>
        (.ofInputFault path (withCause error.message error.cause?), { sources with store })

/-- A replacement in one input. -/
def replaceInput (grammar : Grammar) (selector : Selector) (fragment : Fragment) (write : Bool)
    (sources : Sources) (input : Input) : Report × Sources :=
  match input.read sources with
  | (.error message, sources) => (.ofInputFault input.label message, sources)
  | (.ok text, sources) =>
    match selector.replace grammar fragment text with
    | .error error => (.ofInputFault input.label error.message, sources)
    | .ok outcome => emit write sources input text outcome.output outcome.replacements

/-- A replacement. -/
def runReplace (grammar : Grammar) (selector replacement mode : Text) (write : Bool)
    (paths : List Text) (sources : Sources) : Report × Sources :=
  match Mode.ofName? mode with
  | none => (.ofFault (Mode.unsupportedMessage mode), sources)
  | some .selector =>
    match Selector.compile selector with
    | .error error => (.ofFault error.message, sources)
    | .ok selector =>
      match Fragment.parse grammar replacement with
      | .error error => (.ofFault (withCause error.message error.cause?), sources)
      | .ok fragment =>
        match collect sources.store paths with
        | .error error => (.ofFault (withCause error.message error.cause), sources)
        | .ok inputs => forInputs (replaceInput grammar selector fragment write) sources inputs

/-- The report of a rule that failed in an input. -/
def ruleFault (label : Text) (failure : Text × Error) : Report :=
  let rule := String.ofList failure.1
  let reason := failure.2.message
  .ofInputFault label s!"rule '{rule}' failed: {reason}"

/-- The rules of a file applied to one input. -/
def applyInput (grammar : Grammar) (rules : List Rule) (write : Bool) (sources : Sources)
    (input : Input) : Report × Sources :=
  match input.read sources with
  | (.error message, sources) => (.ofInputFault input.label message, sources)
  | (.ok text, sources) =>
    let (applied, _) := applyRules grammar {} text rules
    let faults := applied.failures.foldr (fun failure report =>
      ruleFault input.label failure ++ report) {}
    let (report, sources) := emit write sources input text applied.output applied.replacements
    (faults ++ report, sources)

/-- An application of rules. -/
def runApply (grammar : Grammar) (rules : Text) (write : Bool) (paths : List Text)
    (sources : Sources) : Report × Sources :=
  match RuleFile.load sources.store rules with
  | .error error => (.ofFault (withCause (error.message rules) error.cause), sources)
  | .ok file =>
    match collect sources.store paths with
    | .error error => (.ofFault (withCause error.message error.cause), sources)
    | .ok inputs => forInputs (applyInput grammar file.rules write) sources inputs

/-! ### Requests -/

/-- What `--version` prints. -/
def versionText : Text := "esrewrite 0.1.0\n".toList

/-- What `--help` prints. -/
def helpText : Text :=
  ("Structural search and replace for JavaScript\n\n"
    ++ "search [--mode MODE] [--json | --count] SELECTOR PATH...\n"
    ++ "replace [--mode MODE] [--write] SELECTOR REPLACEMENT PATH...\n"
    ++ "apply --rules FILE [--write] PATH...\n").toList

/-- What is asked for, done. -/
def Request.run (grammar : Grammar) (sources : Sources) : Request → Report × Sources
  | .version => (.ofOutput versionText, sources)
  | .help => (.ofOutput helpText, sources)
  | .search selector mode listing paths => runSearch grammar selector mode listing paths sources
  | .replace selector replacement mode write paths =>
    runReplace grammar selector replacement mode write paths sources
  | .apply rules write paths => runApply grammar rules write paths sources

end SyntaxGraft.Command
