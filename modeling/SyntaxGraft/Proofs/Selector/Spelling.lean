import Mathlib.Algebra.Ring.Nat
import SyntaxGraft.Selector.Reader
/-!
# The grammar of selectors

What a text has to be like to spell a selector.  Nothing here reads: a spelling is a relation
between a text and a structure, put together from the spellings of the parts.

Names are runs of letters, digits and `_`, `-`, `$`.  Blanks may stand around `>`, `~`, `+` and `,`,
around the path, the operator and the value in brackets, and inside the parentheses of a
pseudo-class; where nothing else stands between two compounds, blanks are the combinator.  A value
is quoted, a regex, or bare.  The only rule that looks beyond its own text is that `<` and `>` are
not followed by `=`, which would belong to the operator (`FollowsOperator`).  `SpellsList` is the
relation for whole selectors.
-/

namespace SyntaxGraft.SelectorGrammar

open SelectorReader (isNameChar)

/-! ### Words -/

/-- Blank characters (`isBlank`), or none. -/
def IsBlanks (text : Text) : Prop :=
  ∀ c ∈ text, isBlank c = true

/-- Characters of names (`isNameChar`), one at least. -/
def IsName (text : Text) : Prop :=
  text ≠ [] ∧ ∀ c ∈ text, isNameChar c = true

theorem isName_iff {text : Text} :
    IsName text ↔ (!text.isEmpty && text.all isNameChar) = true := by
  simp [IsName]

instance (text : Text) : Decidable (IsName text) :=
  decidable_of_iff _ isName_iff.symm

/-- Names (`IsName`) with dots between them. -/
inductive SpellsPath : Text → List String → Prop
  | one {word : Text} (h : IsName word) : SpellsPath word [String.ofList word]
  | more {word rest : Text} {names : List String} (h : IsName word)
      (hrest : SpellsPath rest names) :
      SpellsPath (word ++ '.' :: rest) (String.ofList word :: names)

/-- Digits that spell a positive number, within the range of machine words. -/
def SpellsIndex (text : Text) (position : Nat) : Prop :=
  text ≠ [] ∧ (∀ c ∈ text, c.isDigit = true) ∧ position = Nat.ofDigitChars 10 text 0 ∧
    1 ≤ position ∧ position < 2 ^ 64

/-! ### Values -/

/-- What stands between quotes: a backslash takes the next character with it, and makes a line end
of `n` and a tab of `t`. -/
inductive SpellsQuoted (quote : Char) : Text → Text → Prop
  | nil : SpellsQuoted quote [] []
  | lineEnd {text value : Text} (h : SpellsQuoted quote text value) :
      SpellsQuoted quote ('\\' :: 'n' :: text) ('\n' :: value)
  | tab {text value : Text} (h : SpellsQuoted quote text value) :
      SpellsQuoted quote ('\\' :: 't' :: text) ('\t' :: value)
  | escaped {c : Char} {text value : Text} (hn : c ≠ 'n') (ht : c ≠ 't')
      (h : SpellsQuoted quote text value) : SpellsQuoted quote ('\\' :: c :: text) (c :: value)
  | plain {c : Char} {text value : Text} (hquote : c ≠ quote) (hslash : c ≠ '\\')
      (h : SpellsQuoted quote text value) : SpellsQuoted quote (c :: text) (c :: value)

/-- What stands between the slashes of a regex: a slash only after a backslash. -/
inductive IsRegexBody : Text → Prop
  | nil : IsRegexBody []
  | escaped {c : Char} {text : Text} (h : IsRegexBody text) : IsRegexBody ('\\' :: c :: text)
  | plain {c : Char} {text : Text} (hslash : c ≠ '/') (hback : c ≠ '\\') (h : IsRegexBody text) :
      IsRegexBody (c :: text)

/-- A value without quotes.  It ends at `]`, so it has none; blanks around it are not its own; and a
slash or a quote at its head would make it another kind of value. -/
structure IsBareValue (text : Text) : Prop where
  ne_nil : text ≠ []
  no_bracket : ∀ c ∈ text, c ≠ ']'
  head : ∀ c ∈ text.head?, isBlank c = false ∧ c ≠ '/' ∧ c ≠ '"' ∧ c ≠ '\''
  last : ∀ c ∈ text.getLast?, isBlank c = false

/-- A value after an operator, with the test that it makes.  A regex goes with `=` and `!=` only. -/
inductive SpellsValue : CompareOp → Text → AttributeTest → Prop
  | quoted {quote : Char} (hquote : quote = '"' ∨ quote = '\'') {text value : Text}
      (h : SpellsQuoted quote text value) (op : CompareOp) :
      SpellsValue op (quote :: (text ++ [quote])) (.compare op (.quoted value))
  | regex {body flags : Text} (hbody : IsRegexBody body) (hflags : ∀ c ∈ flags, c.isAlpha = true)
      {pattern : Regex.Pattern} (h : Regex.compile body flags = .ok pattern) (negated : Bool) :
      SpellsValue (if negated then .ne else .eq) ('/' :: (body ++ '/' :: flags))
        (.regex pattern negated)
  | bare {text : Text} (h : IsBareValue text) (op : CompareOp) :
      SpellsValue op text (.compare op (.bare text))

/-- What follows on an operator does not belong to it. -/
def FollowsOperator (op : CompareOp) (text : Text) : Prop :=
  op = .lt ∨ op = .gt → ∀ c ∈ text.head?, c ≠ '='

/-- What stands in brackets: a path that has to be there, or one whose value is tested. -/
inductive SpellsAttribute : Text → Attribute → Prop
  | present {before text after : Text} {path : List String} (hbefore : IsBlanks before)
      (hpath : SpellsPath text path) (hafter : IsBlanks after) :
      SpellsAttribute (before ++ (text ++ after)) ⟨path, .present⟩
  | tested {before text middle gap value after : Text} {path : List String} {op : CompareOp}
      {test : AttributeTest} (hbefore : IsBlanks before) (hpath : SpellsPath text path)
      (hmiddle : IsBlanks middle) (hgap : IsBlanks gap) (hvalue : SpellsValue op value test)
      (hfollows : FollowsOperator op (gap ++ value)) (hafter : IsBlanks after) :
      SpellsAttribute
        (before ++ (text ++ (middle ++ (op.symbol.toList ++ (gap ++ (value ++ after))))))
        ⟨path, test⟩

/-! ### Compounds -/

/-- The kind of a compound: a star or nothing for any, and a name with or without `Kind=`. -/
inductive SpellsKind : Text → Option String → Prop
  | star : SpellsKind ['*'] none
  | nothing : SpellsKind [] none
  | name {word : Text} (h : IsName word) : SpellsKind word (some (String.ofList word))
  | explicit {word : Text} (h : IsName word) :
      SpellsKind ("Kind=".toList ++ word) (some (String.ofList word))

/-- The pseudo-classes with nothing in parentheses, by their words (`SelectorReader.pseudo`). -/
def plainPseudos : List (String × Pseudo) := [
  ("first-child", .firstChild),
  ("last-child", .lastChild),
  ("statement", .statement),
  ("expression", .expression)]

/-- The pseudo-classes with a position in parentheses. -/
def indexedPseudos : List (String × (Nat → Pseudo)) := [
  ("nth-child", .nthChild),
  ("nth-last-child", .nthLastChild)]

/-- The pseudo-classes with a selector list in parentheses. -/
def nestingPseudos : List (String × (SelectorList → Pseudo)) := [
  ("not", .not),
  ("is", .is),
  ("matches", .is),
  ("has", .has)]

/-- What stands between two compounds. -/
inductive SpellsCombinator : Text → Combinator → Prop
  | descendant {blanks : Text} (hne : blanks ≠ []) (h : IsBlanks blanks) :
      SpellsCombinator blanks .descendant
  | child {before after : Text} (hbefore : IsBlanks before) (hafter : IsBlanks after) :
      SpellsCombinator (before ++ '>' :: after) .child
  | sibling {before after : Text} (hbefore : IsBlanks before) (hafter : IsBlanks after) :
      SpellsCombinator (before ++ '~' :: after) .sibling
  | adjacent {before after : Text} (hbefore : IsBlanks before) (hafter : IsBlanks after) :
      SpellsCombinator (before ++ '+' :: after) .adjacent

/-! ### Selectors -/

mutual

/-- A pseudo-class, after its colon, from one of the tables `plainPseudos`, `indexedPseudos` and
`nestingPseudos`. -/
inductive SpellsPseudo : Text → Pseudo → Prop
  | plain {word : String} {pseudo : Pseudo} (h : (word, pseudo) ∈ plainPseudos) :
      SpellsPseudo word.toList pseudo
  | indexed {word : String} {make : Nat → Pseudo} {before digits after : Text} {position : Nat}
      (h : (word, make) ∈ indexedPseudos) (hbefore : IsBlanks before)
      (hdigits : SpellsIndex digits position) (hafter : IsBlanks after) :
      SpellsPseudo (word.toList ++ '(' :: (before ++ (digits ++ (after ++ [')'])))) (make position)
  | nesting {word : String} {make : SelectorList → Pseudo} {text : Text} {list : SelectorList}
      (h : (word, make) ∈ nestingPseudos) (hlist : SpellsList text list) :
      SpellsPseudo (word.toList ++ '(' :: (text ++ [')'])) (make list)

/-- Attributes and pseudo-classes, one after another. -/
inductive SpellsParts : Text → List Attribute → List Pseudo → Prop
  | nil : SpellsParts [] [] []
  | bracketed {text rest : Text} {first : Attribute} {attributes : List Attribute}
      {pseudos : List Pseudo} (h : SpellsAttribute text first)
      (hrest : SpellsParts rest attributes pseudos) :
      SpellsParts ('[' :: (text ++ ']' :: rest)) (first :: attributes) pseudos
  | pseudo {text rest : Text} {first : Pseudo} {attributes : List Attribute}
      {pseudos : List Pseudo} (h : SpellsPseudo text first)
      (hrest : SpellsParts rest attributes pseudos) :
      SpellsParts (':' :: (text ++ rest)) attributes (first :: pseudos)

/-- A kind and parts (`SpellsKind`, `SpellsParts`), not both empty. -/
inductive SpellsCompound : Text → Compound → Prop
  | mk {text rest : Text} {kind : Option String} {attributes : List Attribute}
      {pseudos : List Pseudo} (hkind : SpellsKind text kind)
      (hparts : SpellsParts rest attributes pseudos) (hne : text ++ rest ≠ []) :
      SpellsCompound (text ++ rest) (.mk kind attributes pseudos)

/-- The combinators and compounds that follow on a complex selector, with what they make of it. -/
inductive SpellsChain : Complex → Text → Complex → Prop
  | nil (left : Complex) : SpellsChain left [] left
  | cons {left whole : Complex} {join text rest : Text} {combinator : Combinator}
      {subject : Compound} (hjoin : SpellsCombinator join combinator)
      (hsubject : SpellsCompound text subject)
      (hrest : SpellsChain (.combined left combinator subject) rest whole) :
      SpellsChain left (join ++ (text ++ rest)) whole

/-- A compound, and what follows on it. -/
inductive SpellsComplex : Text → Complex → Prop
  | mk {text rest : Text} {first : Compound} {whole : Complex} (hfirst : SpellsCompound text first)
      (hrest : SpellsChain (.compound first) rest whole) : SpellsComplex (text ++ rest) whole

/-- Alternatives with commas between them, one at least. -/
inductive SpellsList : Text → SelectorList → Prop
  | one {before text after : Text} {complex : Complex} (hbefore : IsBlanks before)
      (h : SpellsComplex text complex) (hafter : IsBlanks after) :
      SpellsList (before ++ (text ++ after)) [complex]
  | more {before text after rest : Text} {complex : Complex} {list : SelectorList}
      (hbefore : IsBlanks before) (h : SpellsComplex text complex) (hafter : IsBlanks after)
      (hrest : SpellsList rest list) :
      SpellsList (before ++ (text ++ (after ++ ',' :: rest))) (complex :: list)

end

theorem isBlanks_nil : IsBlanks [] :=
  List.forall_mem_nil _

theorem IsBlanks.append {s t : Text} (hs : IsBlanks s) (ht : IsBlanks t) : IsBlanks (s ++ t) :=
  fun c hc => (List.mem_append.mp hc).elim (hs c) (ht c)

/-- Blanks at the end (`IsBlanks`) belong to a list. -/
theorem SpellsList.append_blanks {text blanks : Text} {list : SelectorList}
    (hblanks : IsBlanks blanks) : SpellsList text list → SpellsList (text ++ blanks) list
  | .one hbefore h hafter => by
    rw [List.append_assoc, List.append_assoc]
    exact .one hbefore h (hafter.append hblanks)
  | .more hbefore h hafter hrest => by
    rw [List.append_assoc, List.append_assoc, List.append_assoc]
    exact .more hbefore h hafter (hrest.append_blanks hblanks)

end SyntaxGraft.SelectorGrammar
