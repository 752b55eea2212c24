import SyntaxGraft.Regex.CharClass
import SyntaxGraft.Text.Basic
import SyntaxGraft.Unicode.Age
import SyntaxGraft.Unicode.ScriptExtension
import SyntaxGraft.Unicode.Segment
/-!
# Properties of characters by name

A pattern names a property as `\p{name}` or `\p{kind=name}`.  Names are compared in a folded form:
in lower case, without spaces, underscores and hyphens, and without a leading `is`.  A bare name is
looked for among the yes-or-no properties, then the general categories, then the scripts.
-/

namespace SyntaxGraft.Regex

open Unicode

namespace Property

/-- A name in the form in which names are compared.  The name `isc` keeps its `is`, which else would
leave the category of all other characters. -/
def foldName (name : Text) : String :=
  let lower := name.map Char.toLower
  let kept := (if lower.take 2 = ['i', 's'] then lower.drop 2 else lower).filter fun c =>
    c.toNat < 128 && !(c == ' ' || c == '_' || c == '-')
  String.ofList (if lower.take 2 = ['i', 's'] && kept = ['c'] then ['i', 's', 'c'] else kept)

/-- Sets of characters, each under its folded names. -/
abbrev Catalogue := List (List String × CharSet)

/-- The set of a folded name. -/
def Catalogue.find? (catalogue : Catalogue) (name : String) : Option CharSet :=
  (List.find? (fun entry => entry.1.contains name) catalogue).map Prod.snd

/-! ### General categories -/

/-- The punctuation of all categories. -/
def punctuation : CharSet :=
  .unions [Category.connectorPunctuation, Category.dashPunctuation, Category.openPunctuation,
    Category.closePunctuation, Category.initialPunctuation, Category.finalPunctuation,
    Category.otherPunctuation]

/-- The symbols of all categories. -/
def symbol : CharSet :=
  .unions [Category.mathSymbol, Category.currencySymbol, Category.modifierSymbol,
    Category.otherSymbol]

/-- The separators of all categories. -/
def separator : CharSet :=
  .unions [Category.spaceSeparator, Category.lineSeparator, Category.paragraphSeparator]

/-- What is none of the above, surrogates and free code points included. -/
def other : CharSet :=
  .unions [Category.control, Category.format, Category.privateUse, unassigned,
    .range 0xD800 0xDFFF]

/-- The general categories and their unions. -/
def categories : Catalogue := [
  (["lu", "uppercaseletter"], Category.uppercaseLetter),
  (["ll", "lowercaseletter"], Category.lowercaseLetter),
  (["lt", "titlecaseletter"], Category.titlecaseLetter),
  (["lc", "casedletter"],
    .unions [Category.uppercaseLetter, Category.lowercaseLetter, Category.titlecaseLetter]),
  (["lm", "modifierletter"], Category.modifierLetter),
  (["lo", "otherletter"], Category.otherLetter),
  (["l", "letter"], letter),
  (["mn", "nonspacingmark"], Category.nonspacingMark),
  (["mc", "spacingmark"], Category.spacingMark),
  (["me", "enclosingmark"], Category.enclosingMark),
  (["m", "mark", "combiningmark"], mark),
  (["nd", "decimalnumber", "digit"], Category.decimalNumber),
  (["nl", "letternumber"], Category.letterNumber),
  (["no", "othernumber"], Category.otherNumber),
  (["n", "number"], number),
  (["pc", "connectorpunctuation"], Category.connectorPunctuation),
  (["pd", "dashpunctuation"], Category.dashPunctuation),
  (["ps", "openpunctuation"], Category.openPunctuation),
  (["pe", "closepunctuation"], Category.closePunctuation),
  (["pi", "initialpunctuation"], Category.initialPunctuation),
  (["pf", "finalpunctuation"], Category.finalPunctuation),
  (["po", "otherpunctuation"], Category.otherPunctuation),
  (["p", "punctuation", "punct"], punctuation),
  (["sm", "mathsymbol"], Category.mathSymbol),
  (["sc", "currencysymbol"], Category.currencySymbol),
  (["sk", "modifiersymbol"], Category.modifierSymbol),
  (["so", "othersymbol"], Category.otherSymbol),
  (["s", "symbol"], symbol),
  (["zs", "spaceseparator"], Category.spaceSeparator),
  (["zl", "lineseparator"], Category.lineSeparator),
  (["zp", "paragraphseparator"], Category.paragraphSeparator),
  (["z", "separator"], separator),
  (["cc", "control", "cntrl"], Category.control),
  (["cf", "format"], Category.format),
  (["co", "privateuse"], Category.privateUse),
  (["cn", "unassigned"], unassigned),
  (["c", "other"], other),
  (["assigned"], assigned),
  (["any"], .all),
  (["ascii"], CharClass.ascii)]

/-! ### Scripts, ages and segments -/

/-- The script of a folded name. -/
def script? (name : String) : Option CharSet :=
  (scripts.find? fun script => script.names.contains name).map Script.characters

/-- All characters that scripts use which are not their own. -/
def extended : CharSet :=
  .unions (scriptExtensions.map Prod.snd)

/-- The characters that the script of a folded name uses.  Of the common and the inherited
characters these are the ones that no other script uses. -/
def scriptExtension? (name : String) : Option CharSet := do
  let script ← scripts.find? fun script => script.names.contains name
  let own := script.characters
  let short := script.names.headD ""
  if short = "zyyy" || short = "zinh" then return own.diff extended
  else
    match scriptExtensions.lookup short with
    | some others => return own.union others
    | none => return own

/-- An edition of the standard goes by its number, as in `3.0`, or by `v` and its digits. -/
def isNamed (edition : Edition) (name : String) : Bool :=
  name == s!"{edition.major}.{edition.minor}" || name == s!"v{edition.major}{edition.minor}"

/-- The characters that the edition of a folded name had, and with it those of all editions
before. -/
def age? (name : String) : Option CharSet :=
  let older := editions.takeWhile fun edition => !isNamed edition name
  match editions.drop older.length with
  | [] => none
  | edition :: _ => some (.unions (edition.added :: older.map Edition.added))

/-- The class of a folded name. -/
def segment? (segments : List Segment) (name : String) : Option CharSet :=
  (segments.find? fun segment => segment.names.contains name).map Segment.characters

/-! ### Yes-or-no properties -/

/-- The yes-or-no properties, under their short and long names. -/
def flags : Catalogue := [
  (["alpha", "alphabetic"], alphabetic),
  (["lower", "lowercase"], lowercase),
  (["upper", "uppercase"], uppercase),
  (["cased"], cased),
  (["ci", "caseignorable"], caseIgnorable),
  (["cwl", "changeswhenlowercased"], lowered),
  (["cwu", "changeswhenuppercased"], raised),
  (["cwt", "changeswhentitlecased"], titled),
  (["cwcf", "changeswhencasefolded"], folded),
  (["cwcm", "changeswhencasemapped"], .unions [lowered, raised, titled]),
  (["wspace", "space", "whitespace"], whiteSpace),
  (["ahex", "asciihexdigit"], .ofLines ["30-39 41-46 61-66"]),
  (["hex", "hexdigit"], .ofLines ["30-39 41-46 61-66 ff10-ff19 ff21-ff26 ff41-ff46"]),
  (["joinc", "joincontrol"], joinControl),
  (["ids", "idstart"], idStart),
  (["idc", "idcontinue"], idContinue),
  (["xids", "xidstart"], idStart.diff Trait.unstableStart),
  (["xidc", "xidcontinue"], idContinue.diff Trait.unstableContinue),
  (["idcompatmathstart"], Trait.mathIdStart),
  (["idcompatmathcontinue"], Trait.mathIdContinue),
  (["grext", "graphemeextend"], graphemeExtend),
  (["grbase", "graphemebase"], graphemeBase),
  (["grlink", "graphemelink"], Trait.graphemeLink),
  (["oalpha", "otheralphabetic"], otherAlphabetic),
  (["olower", "otherlowercase"], otherLowercase),
  (["oupper", "otheruppercase"], otherUppercase),
  (["oids", "otheridstart"], Trait.otherIdStart),
  (["oidc", "otheridcontinue"], Trait.otherIdContinue),
  (["ogrext", "othergraphemeextend"], Trait.otherGraphemeExtend),
  (["odi", "otherdefaultignorablecodepoint"], Trait.otherDefaultIgnorable),
  (["omath", "othermath"], Trait.otherMath),
  (["bidic", "bidicontrol"], Trait.bidiControl),
  (["bidim", "bidimirrored"], Trait.bidiSwapped),
  (["dash"], Trait.dash),
  (["di", "defaultignorablecodepoint"], defaultIgnorable),
  (["dep", "deprecated"], Trait.deprecatedCharacter),
  (["dia", "diacritic"], Trait.diacritic),
  (["emoji"], Trait.emoji),
  (["ecomp", "emojicomponent"], Trait.emojiComponent),
  (["emod", "emojimodifier"], Trait.emojiModifier),
  (["ebase", "emojimodifierbase"], Trait.emojiModifierBase),
  (["epres", "emojipresentation"], Trait.emojiPresentation),
  (["extpict", "extendedpictographic"], Trait.extendedPictographic),
  (["ext", "extender"], Trait.extender),
  (["hyphen"], Trait.hyphen),
  (["idsu", "idsunaryoperator"], Trait.idsUnary),
  (["idsb", "idsbinaryoperator"], Trait.idsBinary),
  (["idst", "idstrinaryoperator"], Trait.idsTrinary),
  (["ideo", "ideographic"], Trait.ideographic),
  (["loe", "logicalorderexception"], Trait.logicalOrderException),
  (["math"], mathematical),
  (["mcm", "modifiercombiningmark"], Trait.modifierCombiningMark),
  (["nchar", "noncharactercodepoint"], Trait.noncharacter),
  (["patsyn", "patternsyntax"], Trait.patternSyntax),
  (["patws", "patternwhitespace"], Trait.patternBlank),
  (["pcm", "prependedconcatenationmark"], Trait.prependedMark),
  (["qmark", "quotationmark"], Trait.quotationMark),
  (["radical"], Trait.radical),
  (["ri", "regionalindicator"], Trait.regionalIndicator),
  (["sterm", "sentenceterminal"], Trait.sentenceTerminal),
  (["sd", "softdotted"], Trait.softDotted),
  (["term", "terminalpunctuation"], Trait.terminalPunctuation),
  (["uideo", "unifiedideograph"], Trait.unifiedIdeograph),
  (["vs", "variationselector"], Trait.variationSelector)]

/-! ### Names -/

/-- The characters with the property of a bare name. -/
def named? (name : Text) : Option CharSet :=
  let folded := foldName name
  flags.find? folded <|> categories.find? folded <|> script? folded

/-- The characters for which the property of one name has the value of another. -/
def valued? (name value : Text) : Option CharSet :=
  let value := foldName value
  match foldName name with
  | "gc" | "generalcategory" => categories.find? value
  | "sc" | "script" => script? value
  | "scx" | "scriptextensions" => scriptExtension? value
  | "age" => age? value
  | "gcb" | "graphemeclusterbreak" => segment? graphemeBreaks value
  | "wb" | "wordbreak" => segment? wordBreaks value
  | "sb" | "sentencebreak" => segment? sentenceBreaks value
  | _ => none

end Property

end SyntaxGraft.Regex
