import SyntaxGraft.Graft.Fragment
import SyntaxGraft.Mode
import SyntaxGraft.Selector.Error
/-!
# Errors of searching and replacing
-/

namespace SyntaxGraft

/-- Why a search or a replacement failed. -/
inductive Error where
  | source (error : SourceError)
  | selector (error : SelectorError)
  | replacement (error : FragmentError)
  /-- A mode of this name is not supported. -/
  | mode (name : Text)

namespace Error

/-- The error in words, with its kind in front. -/
def message : Error → String
  | .source error =>
    let reason := error.message
    s!"source parse error: {reason}"
  | .selector error =>
    let reason := error.message
    s!"selector syntax error: {reason}"
  | .replacement error =>
    let reason := error.message
    s!"invalid replacement: {reason}"
  | .mode name => Mode.unsupportedMessage name

end Error

end SyntaxGraft
