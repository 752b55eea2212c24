import SyntaxGraft.Unicode.Derived
import SyntaxGraft.Unicode.Script
/-!
# Segments of text

The classes by which a text is divided into clusters, words and sentences, each under its names.  A
character in no class of a kind has the value that no pattern can ask for.
-/

namespace SyntaxGraft.Unicode

/-- A class of characters under its names. -/
structure Segment where
  names : List String
  characters : CharSet

/-- The characters of the script of a name. -/
def scriptCharacters (name : String) : CharSet :=
  match scripts.find? fun script => script.names.contains name with
  | some script => script.characters
  | none => .empty

/-! ### Clusters -/

/-- The syllables of Hangul. -/
def hangulSyllable : CharSet := .range 0xAC00 0xD7A3

/-- The syllables without a final consonant: every twenty-eighth. -/
def openSyllable : CharSet :=
  ⟨(List.range 399).map fun i => ⟨0xAC00 + 28 * i, 0xAC00 + 28 * i⟩⟩

/-- Tags, which extend the character before. -/
def tag : CharSet := .range 0xE0020 0xE007F

/-- Characters that extend the cluster before them. -/
def clusterExtend : CharSet := graphemeExtend.union Trait.emojiModifier

/-- Spacing marks that begin a cluster all the same. -/
def detachedMark : CharSet := .ofLines
  ["102b-102c 1038 1062-1064 1067-106d 1083 1087-108c 108f 109a-109c 1a61 1a63-1a64 aa7b aa7d",
   "11720-11721"]

/-- Characters that end a cluster on both sides. -/
def clusterControl : CharSet :=
  (CharSet.unions [Category.control, Category.format, Category.lineSeparator,
    Category.paragraphSeparator, unassigned.inter defaultIgnorable]).diff <|
    .unions [.ofCodes [0xA, 0xD], joinControl, Trait.prependedMark, tag]

/-- The classes of clusters. -/
def graphemeBreaks : List Segment := [
  ⟨["cr"], .single 0xD⟩,
  ⟨["lf"], .single 0xA⟩,
  ⟨["cn", "control"], clusterControl⟩,
  ⟨["ex", "extend"], clusterExtend⟩,
  ⟨["zwj"], .single 0x200D⟩,
  ⟨["ri", "regionalindicator"], Trait.regionalIndicator⟩,
  ⟨["pp", "prepend"], .ofLines
    ["600-605 6dd 70f 890-891 8e2 d4e 110bd 110cd 111c2-111c3 113d1 1193f 11941 11a3a 11a84-11a89",
     "11d46 11f02"]⟩,
  ⟨["sm", "spacingmark"],
    ((Category.spacingMark.diff clusterExtend).diff detachedMark).union (.ofCodes [0xE33, 0xEB3])⟩,
  ⟨["l"], .ofLines ["1100-115f a960-a97c"]⟩,
  ⟨["v"], .ofLines ["1160-11a7 d7b0-d7c6 16d63 16d67-16d6a"]⟩,
  ⟨["t"], .ofLines ["11a8-11ff d7cb-d7fb"]⟩,
  ⟨["lv"], openSyllable⟩,
  ⟨["lvt"], hangulSyllable.diff openSyllable⟩]

/-! ### Sentences -/

/-- Characters that extend what stands before them in a word or a sentence. -/
def markExtend : CharSet := .unions [graphemeExtend, Category.spacingMark, .single 0x200D]

/-- Marks that enclose a number. -/
def numberSign : CharSet := .ofLines ["600-605 6dd 890-891 8e2 110bd 110cd"]

/-- Characters of numbers in sentences. -/
def sentenceNumeric : CharSet :=
  .unions [Category.decimalNumber, numberSign, .ofLines ["66b-66c 19da"]]

/-- Characters of format in sentences. -/
def sentenceFormat : CharSet :=
  Category.format.diff (.unions [numberSign, joinControl, tag])

/-- Lowercase characters of sentences; Georgian has no case there. -/
def sentenceLower : CharSet :=
  (lowercase.diff graphemeExtend).diff (.ofRanges [⟨0x10D0, 0x10FA⟩, ⟨0x10FD, 0x10FF⟩])

/-- Uppercase characters of sentences. -/
def sentenceUpper : CharSet :=
  (uppercase.union Category.titlecaseLetter).diff
    (.ofRanges [⟨0x1C90, 0x1CBA⟩, ⟨0x1CBD, 0x1CBF⟩])

/-- Full stops, which may stand within a sentence. -/
def fullStop : CharSet := .ofCodes [0x2E, 0x2024, 0xFE52, 0xFF0E]

/-- The classes of sentences. -/
def sentenceBreaks : List Segment := [
  ⟨["cr"], .single 0xD⟩,
  ⟨["lf"], .single 0xA⟩,
  ⟨["se", "sep"], .ofLines ["85 2028-2029"]⟩,
  ⟨["sp"], .ofLines ["9 b-c 20 a0 1680 2000-200a 202f 205f 3000"]⟩,
  ⟨["ex", "extend"], markExtend⟩,
  ⟨["fo", "format"], sentenceFormat⟩,
  ⟨["lo", "lower"], sentenceLower⟩,
  ⟨["up", "upper"], sentenceUpper⟩,
  ⟨["le", "oletter"],
    (alphabetic.diff (.unions [sentenceLower, sentenceUpper, markExtend])).union (.single 0x5F3)⟩,
  ⟨["nu", "numeric"], sentenceNumeric⟩,
  ⟨["at", "aterm"], fullStop⟩,
  ⟨["st", "sterm"], Trait.sentenceTerminal.diff fullStop⟩,
  ⟨["sc", "scontinue"], .ofLines
    ["2c-2d 3a-3b 37e 55d 60c-60d 7f8 1802 1808 2013-2014 3001 fe10-fe11 fe13-fe14 fe31-fe32",
     "fe50-fe51 fe54-fe55 fe58 fe63 ff0c-ff0d ff1a-ff1b ff64"]⟩,
  ⟨["cl", "close"], .ofLines
    ["22 27-29 5b 5d 7b 7d ab bb f3a-f3d 169b-169c 2018-201f 2039-203a 2045-2046 207d-207e",
     "208d-208e 2308-230b 2329-232a 275b-2760 2768-2775 27c5-27c6 27e6-27ef 2983-2998 29d8-29db",
     "29fc-29fd 2e00-2e0d 2e1c-2e1d 2e20-2e29 2e42 2e55-2e5c 3008-3011 3014-301b 301d-301f",
     "fd3e-fd3f fe17-fe18 fe35-fe44 fe47-fe48 fe59-fe5e ff08-ff09 ff3b ff3d ff5b ff5d ff5f-ff60",
     "ff62-ff63 1f676-1f678"]⟩]

/-! ### Words -/

/-- Characters that extend what stands before them in a word. -/
def wordExtend : CharSet := .unions [graphemeExtend, Category.spacingMark, Trait.emojiModifier]

/-- Letters of Hebrew. -/
def hebrewLetter : CharSet := .ofLines
  ["5d0-5ea 5ef-5f2 fb1d fb1f-fb28 fb2a-fb36 fb38-fb3c fb3e fb40-fb41 fb43-fb44 fb46-fb4f"]

/-- Characters of Katakana. -/
def katakana : CharSet := .ofLines
  ["3031-3035 309b-309c 30a0-30fa 30fc-30ff 31f0-31ff 32d0-32fe 3300-3357 ff66-ff9d 1aff0-1aff3",
   "1aff5-1affb 1affd-1affe 1b000 1b120-1b122 1b155 1b164-1b167"]

/-- The characters of scripts that are written without spaces between words. -/
def unspaced : CharSet :=
  .unions <| ["hiragana", "thai", "lao", "myanmar", "khmer", "taile", "newtailue", "taitham",
    "taiviet", "ahom"].map scriptCharacters

/-- Characters of words that are not alphabetic. -/
def otherWordLetter : CharSet := .ofLines
  ["2c2-2c5 2d2-2d7 2de-2df 2e5-2eb 2ed 2ef-2ff 55a-55c 55e 58a 5f3 70f a708-a716 a720-a721",
   "a789-a78a ab5b"]

/-- The classes of words. -/
def wordBreaks : List Segment := [
  ⟨["cr"], .single 0xD⟩,
  ⟨["lf"], .single 0xA⟩,
  ⟨["nl", "newline"], .ofLines ["b-c 85 2028-2029"]⟩,
  ⟨["extend"], wordExtend⟩,
  ⟨["zwj"], .single 0x200D⟩,
  ⟨["fo", "format"], sentenceFormat.diff (.ofCodes [0x70F, 0x200B])⟩,
  ⟨["ka", "katakana"], katakana⟩,
  ⟨["hl", "hebrewletter"], hebrewLetter⟩,
  ⟨["le", "aletter"],
    (alphabetic.diff
      (.unions [Trait.ideographic, katakana, wordExtend, hebrewLetter, unspaced])).union
      otherWordLetter⟩,
  ⟨["sq", "singlequote"], .single 0x27⟩,
  ⟨["dq", "doublequote"], .single 0x22⟩,
  ⟨["mb", "midnumlet"], .ofLines ["2e 2018-2019 2024 fe52 ff07 ff0e"]⟩,
  ⟨["ml", "midletter"], .ofLines ["3a b7 387 55f 5f4 2027 fe13 fe55 ff1a"]⟩,
  ⟨["mn", "midnum"], .ofLines ["2c 3b 37e 589 60c-60d 66c 7f8 2044 fe50 fe54 ff0c ff1b"]⟩,
  ⟨["nu", "numeric"], sentenceNumeric.diff (.single 0x66C)⟩,
  ⟨["ex", "extendnumlet"], .ofLines ["5f 202f 203f-2040 2054 fe33-fe34 fe4d-fe4f ff3f"]⟩,
  ⟨["ri", "regionalindicator"], Trait.regionalIndicator⟩,
  ⟨["wsegspace"], .ofLines ["20 1680 2000-2006 2008-200a 205f 3000"]⟩]

end SyntaxGraft.Unicode
