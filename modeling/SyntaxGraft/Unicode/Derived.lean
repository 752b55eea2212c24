import SyntaxGraft.Unicode.Letter
import SyntaxGraft.Unicode.Trait
/-!
# Derived properties

The properties that the standard defines by categories, traits and a few exceptions.
-/

namespace SyntaxGraft.Unicode

/-! ### Assigned characters -/

/-- The code points that have a category of characters. -/
def assigned : CharSet :=
  .unions [letter, mark, number,
    Category.connectorPunctuation, Category.dashPunctuation, Category.openPunctuation,
    Category.closePunctuation, Category.initialPunctuation, Category.finalPunctuation,
    Category.otherPunctuation,
    Category.mathSymbol, Category.currencySymbol, Category.modifierSymbol, Category.otherSymbol,
    Category.spaceSeparator, Category.lineSeparator, Category.paragraphSeparator,
    Category.control, Category.format, Category.privateUse]

/-- The code points that are kept free. -/
def unassigned : CharSet := assigned.compl

/-- Blank characters. -/
def whiteSpace : CharSet := .ofLines ["9-d 20 85 a0 1680 2000-200a 2028-2029 202f 205f 3000"]

/-- Characters that join or separate the letters beside them. -/
def joinControl : CharSet := .range 0x200C 0x200D

/-! ### Identifiers -/

/-- The characters that begin identifiers. -/
def idStart : CharSet :=
  (CharSet.unions [letter, Category.letterNumber, Trait.otherIdStart]).diff (.single 0x2E2F)

/-- The characters that continue identifiers. -/
def idContinue : CharSet :=
  .unions [idStart, Category.nonspacingMark, Category.spacingMark, Category.decimalNumber,
    Category.connectorPunctuation, Trait.otherIdContinue]

/-! ### Clusters -/

/-- Characters that belong to the one before. -/
def graphemeExtend : CharSet :=
  .unions [Category.nonspacingMark, Category.enclosingMark, Trait.otherGraphemeExtend]

/-- Characters that stand by themselves. -/
def graphemeBase : CharSet :=
  assigned.diff <| .unions [graphemeExtend, Category.control, Category.format,
    Category.privateUse, Category.lineSeparator, Category.paragraphSeparator]

/-- Code points that show nothing where they are not supported: the annotations between lines, the
controls of hieroglyphs and the prepended marks are shown. -/
def defaultIgnorable : CharSet :=
  (CharSet.unions [Trait.otherDefaultIgnorable, Category.format, Trait.variationSelector]).diff <|
    .unions [whiteSpace, .range 0xFFF9 0xFFFB, .range 0x13430 0x13440, Trait.prependedMark]

/-- Mathematical characters. -/
def mathematical : CharSet := Category.mathSymbol.union Trait.otherMath

/-! ### Case -/

/-- Characters of any case. -/
def cased : CharSet := .unions [Category.titlecaseLetter, lowercase, uppercase]

/-- Characters that the case of a word passes over. -/
def caseIgnorable : CharSet :=
  .unions [Category.nonspacingMark, Category.enclosingMark, Category.format,
    Category.modifierLetter, Category.modifierSymbol, Trait.otherCaseIgnorable]

/-- Characters that have another lower case. -/
def lowered : CharSet :=
  (uppercase.union Category.titlecaseLetter).diff Trait.unloweredUpper

/-- Characters that have another upper case. -/
def raised : CharSet :=
  (lowercase.union Category.titlecaseLetter).diff Trait.unraisedLower

/-- Characters that have another title case: the digraphs do, and Georgian letters do not. -/
def titled : CharSet :=
  (CharSet.ofCodes [0x1C4, 0x1C7, 0x1CA, 0x1F1]).union <|
    (lowercase.diff Trait.unraisedLower).diff (.ofRanges [⟨0x10D0, 0x10FA⟩, ⟨0x10FC, 0x10FF⟩])

/-- Characters that change when cases are folded, which makes Cherokee letters uppercase. -/
def folded : CharSet :=
  Trait.foldedOther.union (lowered.diff (.range 0x13A0 0x13F5))

/-! ### Words -/

/-- The characters of words: alphabetic characters, marks, digits, connectors and joiners. -/
def wordCharacter : CharSet :=
  .unions [alphabetic, mark, Category.decimalNumber, Category.connectorPunctuation, joinControl]

end SyntaxGraft.Unicode
