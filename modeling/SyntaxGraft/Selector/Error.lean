import SyntaxGraft.Selector.Basic
/-!
# Malformed selectors

The errors of selector syntax.  Offsets count the bytes of the selector before the place.
-/

namespace SyntaxGraft

/-- What a selector lacks at some place. -/
inductive Expectation where
  | selector
  | nodeKind
  | attributeName
  | operator
  | attributeValue
  | closingBracket
  | pseudoName
  | openingParen
  | closingParen
  | positiveIndex
  | closingSlash
  | closingQuote

/-- The words for it. -/
def Expectation.words : Expectation → String
  | .selector => "selector"
  | .nodeKind => "node kind"
  | .attributeName => "attribute name"
  | .operator => "attribute operator or ']'"
  | .attributeValue => "attribute value"
  | .closingBracket => "']'"
  | .pseudoName => "pseudo-class name"
  | .openingParen => "'('"
  | .closingParen => "')'"
  | .positiveIndex => "positive index"
  | .closingSlash => "closing '/' of regex"
  | .closingQuote => "closing quote"

/-- Why a text is no selector. -/
inductive SelectorError where
  | unexpected (selector : Text) (offset : Nat) (found : Char)
  | expected (selector : Text) (offset : Nat) (what : Expectation)
  | unknownPseudo (name : Text)
  /-- An operator that compares numbers, before a regex. -/
  | regexOperator (op : CompareOp)
  | invalidRegex (body flags : Text) (refusal : Regex.Refusal)
  | unterminatedShorthand (selector : Text)

/-- The error in words. -/
def SelectorError.message : SelectorError → String
  | .unexpected selector offset found =>
    let shown := String.ofList selector
    s!"unexpected '{found}' at offset {offset} in selector `{shown}`"
  | .expected selector offset what =>
    let shown := String.ofList selector
    let words := what.words
    s!"expected {words} at offset {offset} in selector `{shown}`"
  | .unknownPseudo name =>
    let shown := String.ofList name
    s!"unknown pseudo-class ':{shown}'"
  | .regexOperator op =>
    let symbol := op.symbol
    s!"operator '{symbol}' cannot be used with a regular expression"
  | .invalidRegex body flags refusal =>
    let body := String.ofList body
    let flags := String.ofList flags
    let reason := refusal.reason?.getD "invalid pattern"
    s!"invalid regular expression /{body}/{flags}: {reason}"
  | .unterminatedShorthand selector =>
    let shown := String.ofList selector
    s!"unterminated shorthand selector `{shown}`: missing closing '/'"

end SyntaxGraft
