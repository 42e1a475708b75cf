import RuleEngine.Text.Property
import RuleEngine.Text.Script

/-!
# Where text is divided

Classes of characters that tell where text can be divided into graphemes, which
readers take for one character, into words and into sentences. Most classes are
made from other properties of characters; no character is in two classes of one
kind.
-/

namespace RuleEngine

namespace Segment

/-! ### What the kinds have in common -/

/-- Marks that take a place of their own. -/
def spacingMarks : CharSet :=
  Category.spacingMark.toSet

/-- Signs that go with what follows them. -/
def leadingSigns : CharSet :=
  CharProperty.listed "prependedconcatenationmark"

/-- Signs that lead numbers: all but the one that leads abbreviations. -/
def numberSigns : CharSet :=
  leadingSigns.diff (CharSet.singleton '\u070F')

/-- What changes the character before it, with the tones of skin. -/
def modifying : CharSet :=
  CharClass.extending.union (CharProperty.listed "emojimodifier")

/-- The characters of a script. -/
def script (name : String) : CharSet :=
  CharSet.unions ((Script.ofName? name).toList.map Script.toSet)

/-- Decimal digits, the mark between their groups and the signs before them. -/
def numeric : CharSet :=
  (CharClass.digit.union (CharSet.singleton '\u066B')).union numberSigns

/-! ### Graphemes -/

/-- Syllables that end in a vowel; each leads those that go on with a consonant. -/
def openSyllables : CharSet :=
  CharSet.ofRanges ((List.range 399).map fun n => ⟨0xAC00 + 28 * n, 0xAC00 + 28 * n⟩)

/-- Spacing marks that do not belong to the character before them. -/
def looseMarks : CharSet :=
  CharSet.ofTable "102B-102C 1038 1062-1064 1067-106D 1083 1087-108C 108F 109A-109C 1A61
    1A63-1A64 AA7B AA7D 11720-11721"

/-- The classes of graphemes, under their long and short names in small letters. -/
def graphemeClass? (name : String) : Option CharSet :=
  match name with
  | "cr" => some (CharSet.singleton '\r')
  | "lf" => some (CharSet.singleton '\n')
  | "control" | "cn" =>
    let unseen : CharSet :=
      Category.unassigned.toSet.inter (CharProperty.listed "defaultignorablecodepoint")
    let controls : CharSet :=
      Category.union [.lineSeparator, .paragraphSeparator, .control, .format]
    some ((controls.union unseen).diff
      ((modifying.union leadingSigns).union (CharSet.ofTable "A D 200C-200D")))
  | "extend" | "ex" => some modifying
  | "prepend" | "pp" =>
    some (leadingSigns.union (CharSet.ofTable "D4E 111C2-111C3 113D1 1193F 11941 11A3A
      11A84-11A89 11D46 11F02"))
  | "spacingmark" | "sm" =>
    some ((spacingMarks.union (CharSet.ofTable "E33 EB3")).diff (modifying.union looseMarks))
  | "l" => some (CharSet.ofTable "1100-115F A960-A97C")
  | "v" => some (CharSet.ofTable "1160-11A7 D7B0-D7C6 16D63 16D67-16D6A")
  | "t" => some (CharSet.ofTable "11A8-11FF D7CB-D7FB")
  | "lv" => some openSyllables
  | "lvt" => some ((CharSet.range 0xAC00 0xD7A3).diff openSyllables)
  | "zwj" => some (CharSet.singleton '\u200D')
  | "regionalindicator" | "ri" => some (CharProperty.listed "regionalindicator")
  | _ => none

/-! ### Words -/

/-- Letters and marks of scripts that write words without blanks between them. -/
def unbrokenScripts : CharSet :=
  CharSet.unions (["thai", "lao", "khmer", "myanmar", "taile", "newtailue", "taitham",
    "taiviet", "ahom"].map script)

/-- Characters of words that are not alphabetic. -/
def wordSigns : CharSet :=
  CharSet.ofTable "2C2-2C5 2D2-2D7 2DE-2DF 2E5-2EB 2ED 2EF-2FF 55A-55C 55E 58A 5F3 70F
    A708-A716 A720-A721 A789-A78A AB5B"

/-- Characters of Japanese words that are written by sound. -/
def katakana : CharSet :=
  (script "katakana").union (CharSet.ofTable "3031-3035 309B-309C 30A0 30FC FF70")

/-- The letters of Hebrew. -/
def hebrewLetters : CharSet :=
  (script "hebrew").inter Category.otherLetter.toSet

/-- What changes the character of a word before it. -/
def wordExtending : CharSet :=
  modifying.union spacingMarks

/-- The classes of words, under their long and short names in small letters. -/
def wordClass? (name : String) : Option CharSet :=
  match name with
  | "cr" => some (CharSet.singleton '\r')
  | "lf" => some (CharSet.singleton '\n')
  | "newline" | "nl" => some (CharSet.ofTable "B-C 85 2028-2029")
  | "extend" => some wordExtending
  | "zwj" => some (CharSet.singleton '\u200D')
  | "regionalindicator" | "ri" => some (CharProperty.listed "regionalindicator")
  | "format" | "fo" =>
    some (Category.format.toSet.diff
      ((wordExtending.union leadingSigns).union (CharSet.range 0x200B 0x200D)))
  | "katakana" | "ka" => some katakana
  | "hebrewletter" | "hl" => some hebrewLetters
  | "aletter" | "le" =>
    let others : List CharSet := [CharProperty.listed "ideographic", katakana,
      unbrokenScripts, script "hiragana", wordExtending, hebrewLetters]
    some ((CharClass.alphabetic.union wordSigns).diff (CharSet.unions others))
  | "midletter" | "ml" => some (CharSet.ofTable "3A B7 387 55F 5F4 2027 FE13 FE55 FF1A")
  | "midnum" | "mn" =>
    some (CharSet.ofTable "2C 3B 37E 589 60C-60D 66C 7F8 2044 FE10 FE14 FE50 FE54 FF0C FF1B")
  | "midnumlet" | "mb" => some (CharSet.ofTable "2E 2018-2019 2024 FE52 FF07 FF0E")
  | "numeric" | "nu" => some numeric
  | "extendnumlet" | "ex" =>
    some (Category.connectorPunctuation.toSet.union (CharSet.singleton '\u202F'))
  | "singlequote" | "sq" => some (CharSet.singleton '\'')
  | "doublequote" | "dq" => some (CharSet.singleton '"')
  | "wsegspace" => some (CharSet.ofTable "20 1680 2000-2006 2008-200A 205F 3000")
  | _ => none

/-! ### Sentences -/

/-- Ends of lines and paragraphs. -/
def lineEnds : CharSet :=
  CharSet.ofTable "A D 85 2028-2029"

/-- What changes the character of a sentence before it. -/
def sentenceExtending : CharSet :=
  (CharClass.extending.union spacingMarks).union (CharSet.singleton '\u200D')

/-- Letters that can go on a sentence: Georgian ones have capitals only in titles,
    so they tell nothing. -/
def smallLetters : CharSet :=
  CharClass.lowercase.diff (CharClass.extending.union (CharSet.ofTable "10D0-10FA 10FD-10FF"))

/-- Letters that can start a sentence. -/
def capitalLetters : CharSet :=
  (CharProperty.withTitlecase CharClass.uppercase).diff
    (CharSet.ofTable "1C90-1CBA 1CBD-1CBF")

/-- Points that end sentences, but stand in numbers and after short words too. -/
def points : CharSet :=
  CharSet.ofTable "2E 2024 FE52 FF0E"

/-- The classes of sentences, under their long and short names in small letters. -/
def sentenceClass? (name : String) : Option CharSet :=
  match name with
  | "cr" => some (CharSet.singleton '\r')
  | "lf" => some (CharSet.singleton '\n')
  | "extend" | "ex" => some sentenceExtending
  | "sep" | "se" => some (CharSet.ofTable "85 2028-2029")
  | "format" | "fo" =>
    some (Category.format.toSet.diff
      ((sentenceExtending.union numberSigns).union (CharSet.singleton '\u200C')))
  | "sp" => some (CharClass.blank.diff lineEnds)
  | "lower" | "lo" => some smallLetters
  | "upper" | "up" => some capitalLetters
  | "oletter" | "le" =>
    some ((CharClass.alphabetic.union (CharSet.singleton '\u05F3')).diff
      ((smallLetters.union capitalLetters).union sentenceExtending))
  | "numeric" | "nu" => some (numeric.union (CharSet.singleton '\u066C'))
  | "aterm" | "at" => some points
  | "scontinue" | "sc" =>
    some (CharSet.ofTable "2C-2D 3A-3B 37E 55D 60C-60D 7F8 1802 1808 2013-2014 3001
      FE10-FE11 FE13-FE14 FE31-FE32 FE50-FE51 FE54-FE55 FE58 FE63 FF0C-FF0D FF1A-FF1B FF64")
  | "sterm" | "st" => some ((CharProperty.listed "sentenceterminal").diff points)
  | "close" | "cl" =>
    some ((Category.union [.openPunctuation, .closePunctuation, .initialPunctuation,
      .finalPunctuation]).union (CharSet.ofTable "22 27 275B-2760 2E00-2E01 2E06-2E08 2E0B
      1F676-1F678"))
  | _ => none

end Segment

end RuleEngine
