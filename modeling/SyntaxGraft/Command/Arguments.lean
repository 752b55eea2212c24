import SyntaxGraft.Text.Basic
/-!
# Options and operands

Reading the arguments of a command: options by their long name or by a letter, in any order among
the operands.  A value follows its option as the next argument, after `=`, or right after the
letter; letters of options without a value can be joined.  After `--` everything is an operand, and
so is `-` anywhere.
-/

namespace SyntaxGraft.Command

/-- An option that a command knows. -/
structure OptionSpec where
  long : String
  letter : Option Char := none
  takesValue : Bool := false
  /-- Its value is a path, which is never empty. -/
  isPath : Bool := false
  /-- It may be given more than once. -/
  repeats : Bool := false
  /-- Nothing after it is read. -/
  halts : Bool := false

/-- The arguments that a command takes. -/
structure ArgumentSpec where
  options : List OptionSpec
  /-- The number of operands that may be any text.  Those after them are paths, which are never
  empty. -/
  words : Nat := 0
  /-- Nothing is read after the first operand, and `--` cannot stand before it. -/
  single : Bool := false

/-- The options that were given, in order, with a value or an empty text; the operands; and what was
not read. -/
structure Arguments where
  options : List (String × Text) := []
  operands : List Text := []
  unread : List Text := []

namespace Arguments

/-- The option was given. -/
def has (arguments : Arguments) (long : String) : Bool :=
  arguments.options.any fun option => option.1 = long

/-- The value of an option. -/
def value? (arguments : Arguments) (long : String) : Option Text :=
  (arguments.options.find? fun option => option.1 = long).map (·.2)

/-- The arguments with one more option, unless it was given before and may not be repeated, or its
value is no path. -/
def addOption (arguments : Arguments) (spec : OptionSpec) (value : Text) : Option Arguments :=
  if !spec.repeats && arguments.has spec.long || spec.isPath && value.isEmpty then none
  else some { arguments with options := arguments.options ++ [(spec.long, value)] }

/-- The arguments with one more operand, unless it has to be a path and is none. -/
def addOperand (spec : ArgumentSpec) (arguments : Arguments) (operand : Text) : Option Arguments :=
  if operand.isEmpty && spec.words ≤ arguments.operands.length then none
  else some { arguments with operands := arguments.operands ++ [operand] }

end Arguments

/-- How reading goes on after an argument. -/
inductive Progress where
  /-- With the next argument. -/
  | more (arguments : Arguments)
  /-- With the value of an option as the next argument. -/
  | value (spec : OptionSpec) (arguments : Arguments)
  /-- Not at all. -/
  | halt (arguments : Arguments)

/-- An argument with a name after two hyphens, and a value if it has one. -/
def readLong (specs : List OptionSpec) (argument : Text) (arguments : Arguments) :
    Option Progress := do
  let name := argument.takeWhile (· ≠ '=')
  let attached := argument.dropWhile (· ≠ '=')
  let spec ← specs.find? fun spec => spec.long.toList = name
  match attached with
  | [] =>
    if spec.takesValue then return .value spec arguments
    else
      let arguments ← arguments.addOption spec []
      return if spec.halts then .halt arguments else .more arguments
  | _ :: value =>
    if spec.takesValue then return .more (← arguments.addOption spec value) else none

/-- The letters after a single hyphen. -/
def readLetters (specs : List OptionSpec) : Text → Arguments → Option Progress
  | [], arguments => some (.more arguments)
  | letter :: rest, arguments => do
    let spec ← specs.find? fun spec => spec.letter = some letter
    if spec.takesValue then
      match rest with
      | [] => return .value spec arguments
      | '=' :: value => return .more (← arguments.addOption spec value)
      | value => return .more (← arguments.addOption spec value)
    else
      let arguments ← arguments.addOption spec []
      if spec.halts then return .halt arguments else readLetters specs rest arguments

/-- The argument looks like an option. -/
def isOption : Text → Bool
  | '-' :: _ :: _ => true
  | _ => false

/-- The arguments of a command, read from the left.  There is no answer from the first argument on
that the command does not allow. -/
def readArguments (spec : ArgumentSpec) : List Text → Arguments → Option Arguments
  | [], arguments => some arguments
  | argument :: rest, arguments =>
    if argument = ['-', '-'] then
      if spec.single then none else rest.foldlM (Arguments.addOperand spec) arguments
    else if isOption argument then
      let progress? := match argument with
        | '-' :: '-' :: name => readLong spec.options name arguments
        | _ => readLetters spec.options argument.tail arguments
      match progress?, rest with
      | none, _ => none
      | some (.halt arguments), _ => some arguments
      | some (.more arguments), rest => readArguments spec rest arguments
      | some (.value _ _), [] => none
      | some (.value option arguments), value :: rest =>
        if isOption value then none
        else
          match arguments.addOption option value with
          | none => none
          | some arguments => readArguments spec rest arguments
    else
      match arguments.addOperand spec argument with
      | none => none
      | some arguments =>
        if spec.single then some { arguments with unread := rest }
        else readArguments spec rest arguments

end SyntaxGraft.Command
