import SyntaxGraft.Rules.Decode
import SyntaxGraft.Store.FileStore
/-!
# Loading rule files
-/

namespace SyntaxGraft

namespace RuleFileError

/-- The error in words.  `file` is what the rule file is called. -/
def message (file : String) : RuleFileError → String
  | .malformed => s!"malformed {file}"
  | .invalid issues =>
    let reasons := Issue.messages issues
    s!"invalid {file}: {reasons}"

end RuleFileError

/-- Why no rules can be had from a file. -/
inductive RuleLoadError where
  | store (error : StoreError)
  | content (error : RuleFileError)

namespace RuleLoadError

/-- What a rule file at a path is called. -/
def describe (path : Text) : String :=
  let path := String.ofList path
  s!"rule file {path}"

/-- The error in words. -/
def message (path : Text) : RuleLoadError → String
  | .store error =>
    let file := describe path
    let reason := error.message
    s!"failed to read {file}: {reason}"
  | .content error => error.message (describe path)

/-- The error that this one comes from, in words. -/
def cause : RuleLoadError → String
  | .store error => error.message
  | .content .malformed => "malformed"
  | .content (.invalid issues) => Issue.messages issues

end RuleLoadError

/-- The rule file that a path leads to. -/
def RuleFile.load (store : FileStore) (path : Text) : Except RuleLoadError RuleFile :=
  match store.readText path with
  | .error error => .error (.store error)
  | .ok text =>
    match RuleFile.read text with
    | .error error => .error (.content error)
    | .ok file => .ok file

end SyntaxGraft
