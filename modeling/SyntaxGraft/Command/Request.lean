import SyntaxGraft.Command.Arguments
/-!
# What the command line asks for

The three commands and their options.  `Request.ofArguments?` has no answer where the arguments fit
no command.
-/

namespace SyntaxGraft.Command

/-- How matches are listed. -/
inductive Listing where
  /-- A line for each match. -/
  | lines
  /-- All matches as one JSON document. -/
  | json
  /-- The number of matches in each input. -/
  | count

/-- What is asked for. -/
inductive Request where
  | version
  | help
  | search (selector mode : Text) (listing : Listing) (paths : List Text)
  | replace (selector replacement mode : Text) (write : Bool) (paths : List Text)
  | apply (rules : Text) (write : Bool) (paths : List Text)

/-! ### Options -/

def verboseOption : OptionSpec := { long := "verbose", letter := 'v', repeats := true }
def helpOption : OptionSpec := { long := "help", letter := 'h', halts := true }
def versionOption : OptionSpec := { long := "version", letter := 'V', halts := true }
def modeOption : OptionSpec := { long := "mode", takesValue := true }
def jsonOption : OptionSpec := { long := "json" }
def countOption : OptionSpec := { long := "count" }
def writeOption : OptionSpec := { long := "write", letter := 'w' }
def rulesOption : OptionSpec :=
  { long := "rules", letter := 'r', takesValue := true, isPath := true }

/-- What stands in front of a command, and the command. -/
def leadingArguments : ArgumentSpec where
  options := [verboseOption, helpOption, versionOption]
  words := 1
  single := true

/-- The arguments of searching: a selector and paths. -/
def searchArguments : ArgumentSpec where
  options := [modeOption, jsonOption, countOption, verboseOption, helpOption]
  words := 1

/-- The arguments of replacing: a selector, a replacement and paths. -/
def replaceArguments : ArgumentSpec where
  options := [modeOption, writeOption, verboseOption, helpOption]
  words := 2

/-- The arguments of applying rules: paths. -/
def applyArguments : ArgumentSpec where
  options := [rulesOption, writeOption, verboseOption, helpOption]

/-! ### Requests -/

namespace Request

/-- The paths, if there are any. -/
def paths? (paths : List Text) : Option (List Text) :=
  if paths.isEmpty then none else some paths

/-- The mode asked for, or the default. -/
def modeOf (arguments : Arguments) : Text :=
  (arguments.value? "mode").getD "selector".toList

/-- A search. -/
def ofSearch? (arguments : Arguments) : Option Request := do
  let listing ← match arguments.has "json", arguments.has "count" with
    | true, true => none
    | true, false => some Listing.json
    | false, true => some Listing.count
    | false, false => some Listing.lines
  match arguments.operands with
  | selector :: paths => return .search selector (modeOf arguments) listing (← paths? paths)
  | [] => none

/-- A replacement. -/
def ofReplace? (arguments : Arguments) : Option Request := do
  match arguments.operands with
  | selector :: replacement :: paths =>
    return .replace selector replacement (modeOf arguments) (arguments.has "write") (← paths? paths)
  | _ => none

/-- An application of rules. -/
def ofApply? (arguments : Arguments) : Option Request := do
  let rules ← arguments.value? "rules"
  return .apply rules (arguments.has "write") (← paths? arguments.operands)

/-- A command with its arguments. -/
def ofCommand? (spec : ArgumentSpec) (build : Arguments → Option Request)
    (arguments : List Text) : Option Request := do
  let arguments ← readArguments spec arguments {}
  if arguments.has "help" then return .help else build arguments

/-- The words that name a command. -/
def commandNames : List Text :=
  ["search", "replace", "apply", "help"].map String.toList

/-- Help on everything, or on one command. -/
def ofHelp? : List Text → Option Request
  | [] => some .help
  | [command] => if commandNames.contains command then some .help else none
  | _ => none

/-- What the arguments ask for. -/
def ofArguments? (arguments : List Text) : Option Request := do
  let leading ← readArguments leadingArguments arguments {}
  if leading.has "version" then return .version
  else if leading.has "help" then return .help
  else
    match leading.operands with
    | [command] =>
      if command = "search".toList then ofCommand? searchArguments ofSearch? leading.unread
      else if command = "replace".toList then ofCommand? replaceArguments ofReplace? leading.unread
      else if command = "apply".toList then ofCommand? applyArguments ofApply? leading.unread
      else if command = "help".toList then ofHelp? leading.unread
      else none
    | _ => none

end Request

end SyntaxGraft.Command
