import AsmSymbols.Unicode.Property
import AsmSymbols.Unicode.Script

/-!
# Break properties

The classes of characters by which a text is cut into clusters, words and sentences.
-/

set_option autoImplicit false

namespace AsmSymbols.Unicode.Break

def carriageReturn : CharSet := .ofHex ["D"]

def lineFeed : CharSet := .ofHex ["A"]

def zeroWidthJoiner : CharSet := .ofHex ["200D"]

/-- Format characters that spell out the parts of a flag. -/
def tags : CharSet := .ofHex ["E0020-E007F"]

def scriptSet (name : String) : CharSet := ((Script.named? name).map Script.set).getD .empty

/-! ## Clusters -/

def clusterExtend : CharSet := (graphemeExtend.union emojiModifier).difference zeroWidthJoiner

def clusterControl : CharSet :=
  let controls := inCategories [.lineSeparator, .paragraphSeparator, .control, .format]
  (controls.union (unassigned.intersection defaultIgnorable)).difference
    (.unionAll [tags, prependedConcatenationMark, .ofHex ["A D 200C-200D"]])

def clusterPrepend : CharSet :=
  prependedConcatenationMark.union
    (.ofHex ["D4E 111C2-111C3 113D1 1193F 11941 11A3A 11A84-11A89 11D46 11F02"])

def clusterSpacingMark : CharSet :=
  ((Category.set .spacingMark).union (.ofHex ["E33 EB3"])).difference
    (graphemeExtend.union
      (.ofHex ["102B-102C 1038 1062-1064 1067-106D 1083 1087-108C 108F 109A-109C 1A61 1A63-1A64",
        "AA7B AA7D 11720-11721"]))

/-- Syllables without a final consonant: every twenty-eighth. -/
def openSyllable : CharSet :=
  .ofRanges ((List.range 399).map fun index => (0xAC00 + 28 * index, 0xAC00 + 28 * index))

def cluster? (name : String) : Option CharSet :=
  match name with
  | "cn" | "control" => some clusterControl
  | "cr" => some carriageReturn
  | "ex" | "extend" => some clusterExtend
  | "l" => some (.ofHex ["1100-115F A960-A97C"])
  | "lf" => some lineFeed
  | "lv" => some openSyllable
  | "lvt" => some ((CharSet.ofHex ["AC00-D7A3"]).difference openSyllable)
  | "pp" | "prepend" => some clusterPrepend
  | "ri" | "regionalindicator" => some regionalIndicator
  | "sm" | "spacingmark" => some clusterSpacingMark
  | "t" => some (.ofHex ["11A8-11FF D7CB-D7FB"])
  | "v" => some (.ofHex ["1160-11A7 D7B0-D7C6 16D63 16D67-16D6A"])
  | "zwj" => some zeroWidthJoiner
  | _ => none

/-! ## Words -/

def wordExtend : CharSet := clusterExtend.union (Category.set .spacingMark)

def wordFormat : CharSet :=
  (Category.set .format).difference (tags.union (.ofHex ["200B-200D"]))

def wordNumeric : CharSet := (Category.set .decimalNumber).union (.ofHex ["66B"])

def wordKatakana : CharSet :=
  (scriptSet "katakana").union (.ofHex ["3031-3035 309B-309C 30A0 30FC FF70"])

def wordHebrew : CharSet := (scriptSet "hebrew").intersection (Category.set .otherLetter)

/-- Letters of scripts that do not show where words end. -/
def unspacedLetter : CharSet :=
  let names := ["thai", "lao", "myanmar", "khmer", "taile", "newtailue", "taitham", "taiviet",
    "ahom"]
  (CharSet.unionAll (names.map scriptSet)).intersection
    (inCategories [.otherLetter, .modifierLetter])

def wordLetterProper : CharSet :=
  let further : CharSet := .ofHex
    ["2C2-2C5 2D2-2D7 2DE-2DF 2E5-2EB 2ED 2EF-2FF 55A-55C 55E 58A 5F3 A708-A716 A720-A721",
     "A789-A78A AB5B"]
  (alphabetic.union further).difference
    (.unionAll [ideographic, wordKatakana, wordHebrew, wordExtend, unspacedLetter,
      scriptSet "hiragana"])

def word? (name : String) : Option CharSet :=
  match name with
  | "cr" => some carriageReturn
  | "dq" | "doublequote" => some (.ofHex ["22"])
  | "ex" | "extendnumlet" => some ((Category.set .connectorPunctuation).union (.ofHex ["202F"]))
  | "extend" => some wordExtend
  | "fo" | "format" => some wordFormat
  | "hl" | "hebrewletter" => some wordHebrew
  | "ka" | "katakana" => some wordKatakana
  | "le" | "aletter" => some wordLetterProper
  | "lf" => some lineFeed
  | "mb" | "midnumlet" => some (.ofHex ["2E 2018-2019 2024 FE52 FF07 FF0E"])
  | "ml" | "midletter" => some (.ofHex ["3A B7 387 55F 5F4 2027 FE13 FE55 FF1A"])
  | "mn" | "midnum" =>
    some (.ofHex ["2C 3B 37E 589 60C-60D 66C 7F8 2044 FE10 FE14 FE50 FE54 FF0C FF1B"])
  | "nl" | "newline" => some (.ofHex ["B-C 85 2028-2029"])
  | "nu" | "numeric" => some wordNumeric
  | "ri" | "regionalindicator" => some regionalIndicator
  | "sq" | "singlequote" => some (.ofHex ["27"])
  | "wsegspace" => some (.ofHex ["20 1680 2000-2006 2008-200A 205F 3000"])
  | "zwj" => some zeroWidthJoiner
  | _ => none

/-! ## Sentences -/

def sentenceExtend : CharSet :=
  .unionAll [graphemeExtend, Category.set .spacingMark, zeroWidthJoiner]

def sentenceLower : CharSet :=
  lowercase.difference (graphemeExtend.union (.ofHex ["10D0-10FA 10FD-10FF"]))

def sentenceUpper : CharSet :=
  (uppercase.union (Category.set .titlecaseLetter)).difference
    (.ofHex ["1C90-1CBA 1CBD-1CBF"])

def sentence? (name : String) : Option CharSet :=
  match name with
  | "at" | "aterm" => some (.ofHex ["2E 2024 FE52 FF0E"])
  | "cl" | "close" =>
    some ((inCategories [.openPunctuation, .closePunctuation, .initialPunctuation,
      .finalPunctuation]).union
      (.ofHex ["22 27 275B-2760 2E00-2E01 2E06-2E08 2E0B 1F676-1F678"]))
  | "cr" => some carriageReturn
  | "ex" | "extend" => some sentenceExtend
  | "fo" | "format" =>
    some ((Category.set .format).difference (tags.union (.ofHex ["200C-200D"])))
  | "le" | "oletter" =>
    some ((alphabetic.union (.ofHex ["5F3"])).difference
      (.unionAll [sentenceLower, sentenceUpper, sentenceExtend]))
  | "lf" => some lineFeed
  | "lo" | "lower" => some sentenceLower
  | "nu" | "numeric" => some (wordNumeric.union (.ofHex ["66C"]))
  | "sc" | "scontinue" =>
    some (.ofHex ["2C-2D 3A-3B 37E 55D 60C-60D 7F8 1802 1808 2013-2014 3001 FE10-FE11 FE13-FE14",
      "FE31-FE32 FE50-FE51 FE54-FE55 FE58 FE63 FF0C-FF0D FF1A-FF1B FF64"])
  | "se" | "sep" => some (.ofHex ["85 2028-2029"])
  | "sp" => some (whiteSpace.difference (.ofHex ["A D 85 2028-2029"]))
  | "st" | "sterm" => some (sentenceTerminal.difference (.ofHex ["2E 2024 FE52 FF0E"]))
  | "up" | "upper" => some sentenceUpper
  | _ => none

end AsmSymbols.Unicode.Break
