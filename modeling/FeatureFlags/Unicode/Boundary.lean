import FeatureFlags.Unicode.CaseChange
import FeatureFlags.Unicode.Emoji
import FeatureFlags.Unicode.Format
import FeatureFlags.Unicode.Ideograph
import FeatureFlags.Unicode.Script
import FeatureFlags.Unicode.Sign

/-!
# Boundaries in text

The classes of characters that decide where a text can be cut between characters, words and
sentences, in version 16.0 of the character database. Most follow from other properties, and a table
lists what does not. What no class holds has no name here.

The three properties are `Grapheme_Cluster_Break`, `Word_Break` and `Sentence_Break`; the last
definition of each section finds the characters that have a value of the property, by the name of
the value in lower case.
-/

namespace FeatureFlags
namespace Unicode

/-! ### Characters as users see them -/

/-- The first letters of Korean syllables. -/
def leadingJamo : Ranges := Ranges.ofText "1100-115F A960-A97C"

/-- The vowels of Korean syllables. -/
def vowelJamo : Ranges := Ranges.ofText "1160-11A7 D7B0-D7C6 16D63 16D67-16D6A"

/-- The last letters of Korean syllables. -/
def trailingJamo : Ranges := Ranges.ofText "11A8-11FF D7CB-D7FB"

/-- Korean syllables that end in a vowel: every twenty-eighth one. -/
def openSyllables : Ranges := (List.range 399).map fun k => (0xAC00 + 28 * k, 0xAC00 + 28 * k)

/-- Korean syllables that end in a consonant. -/
def closedSyllables : Ranges := Ranges.diff [(0xAC00, 0xD7A3)] openSyllables

/-- Line ends and joiners, which have boundaries of their own. -/
def ownBoundary : Ranges := Ranges.ofText "A D 200C-200D"

/-- Tags, which are format characters that extend. -/
def tags : Ranges := [(0xE0020, 0xE007F)]

/-- Characters that stand alone whatever is around them. -/
def graphemeControl : Ranges :=
  Ranges.diff
    (Ranges.union (Category.rangesOf [.zl, .zp, .cc, .cf])
      (Ranges.inter (Category.ranges .cn) defaultIgnorable))
    (Ranges.unionAll [ownBoundary, prependedConcatenationMark, tags])

def graphemeExtend : Ranges :=
  Ranges.diff (Ranges.union extending emojiModifier) [(0x200D, 0x200D)]

/-- Vowels with a width that are letters. -/
def spacedLater : Ranges := Ranges.ofText "E33 EB3"

/-- Marks with a width that do not go with the character before. -/
def unspacedMark : Ranges := Ranges.ofText "
  102B-102C 1038 1062-1064 1067-106D 1083 1087-108C 108F 109A-109C 1A61 1A63-1A64 AA7B AA7D
  11720-11721"

/-- Marks with a width that go with the character before. -/
def spacingMark : Ranges :=
  Ranges.union (Ranges.diff (Ranges.diff Category.mcRanges extending) unspacedMark) spacedLater

/-- Letters that go with the character behind. -/
def prependedLetter : Ranges := Ranges.ofText "
  D4E 111C2-111C3 113D1 1193F 11941 11A3A 11A84-11A89 11D46 11F02"

def prepend : Ranges := Ranges.union prependedConcatenationMark prependedLetter

def graphemeBreak? (name : String) : Option Ranges :=
  match name with
  | "cr" => some [(0xD, 0xD)]
  | "lf" => some [(0xA, 0xA)]
  | "cn" | "control" => some graphemeControl
  | "ex" | "extend" => some graphemeExtend
  | "zwj" => some [(0x200D, 0x200D)]
  | "ri" | "regionalindicator" => some regionalIndicator
  | "pp" | "prepend" => some prepend
  | "sm" | "spacingmark" => some spacingMark
  | "l" => some leadingJamo
  | "v" => some vowelJamo
  | "t" => some trailingJamo
  | "lv" => some openSyllables
  | "lvt" => some closedSyllables
  | _ => none

/-! ### Words -/

/-- Line ends other than the carriage return and the line feed. -/
def newline : Ranges := Ranges.ofText "B-C 85 2028-2029"

/-- Format characters that go with a number. -/
def numberSign : Ranges := Ranges.ofText "600-605 6DD 890-891 8E2 110BD 110CD"

def numeric : Ranges :=
  Ranges.unionAll [Category.ndRanges, numberSign, [(0x66B, 0x66B), (0x19DA, 0x19DA)]]

/-- Format characters that words ignore. -/
def wordFormat : Ranges :=
  Ranges.diff Category.cfRanges
    (Ranges.unionAll [[(0x200B, 0x200D), (0x70F, 0x70F)], numberSign, tags])

/-- Characters that words ignore behind others. -/
def wordExtend : Ranges :=
  Ranges.diff (Ranges.unionAll [extending, Category.mcRanges, emojiModifier]) [(0x200D, 0x200D)]

def scriptRanges (name : String) : Ranges := ((Script.find? name).map Script.ranges).getD []

def katakana : Ranges :=
  Ranges.union (scriptRanges "kana") (Ranges.ofText "3031-3035 309B-309C 30A0 30FC FF70")

def hebrewLetter : Ranges := Ranges.inter (scriptRanges "hebr") Category.loRanges

/-- Characters that count as letters of a word and are no letters. -/
def otherWordLetter : Ranges := Ranges.ofText "
  2C2-2C5 2D2-2D7 2DE-2DF 2E5-2EB 2ED 2EF-2FF 55A-55C 55E 58A 5F3 70F A708-A716 A720-A721 A789-A78A
  AB5B"

/-- Letters of scripts that write words without blanks between them. -/
def unspacedLetter : Ranges := Ranges.ofText "
  E01-E30 E32-E33 E40-E46 E81-E82 E84 E86-E8A E8C-EA3 EA5 EA7-EB0 EB2-EB3 EBD EC0-EC4 EC6 EDC-EDF
  1000-102A 103F 1050-1055 105A-105D 1061 1065-1066 106E-1070 1075-1081 108E 1780-17B3 17D7 17DC
  1950-196D 1970-1974 1980-19AB 19B0-19C9 1A20-1A54 1AA7 A9E0-A9E4 A9E6-A9EF A9FA-A9FE AA60-AA76
  AA7A AA7E-AAAF AAB1 AAB5-AAB6 AAB9-AABD AAC0 AAC2 AADB-AADD 11700-1171A 11740-11746"

def wordLetter : Ranges :=
  Ranges.union
    (Ranges.diff alphabetic
      (Ranges.unionAll [ideographic, katakana, scriptRanges "hira", wordExtend, hebrewLetter,
        unspacedLetter]))
    otherWordLetter

/-- Punctuation that may stand inside a number. -/
def midNumber : Ranges := Ranges.ofText "2C 3B 37E 589 60C-60D 66C 7F8 2044 FE50 FE54 FF0C FF1B"

/-- Blanks at which a line may be cut. -/
def wordSpace : Ranges :=
  Ranges.diff Category.zsRanges [(0xA0, 0xA0), (0x2007, 0x2007), (0x202F, 0x202F)]

def wordBreak? (name : String) : Option Ranges :=
  match name with
  | "cr" => some [(0xD, 0xD)]
  | "lf" => some [(0xA, 0xA)]
  | "nl" | "newline" => some newline
  | "extend" => some wordExtend
  | "zwj" => some [(0x200D, 0x200D)]
  | "ri" | "regionalindicator" => some regionalIndicator
  | "fo" | "format" => some wordFormat
  | "ka" | "katakana" => some katakana
  | "hl" | "hebrewletter" => some hebrewLetter
  | "le" | "aletter" => some wordLetter
  | "sq" | "singlequote" => some singleQuote
  | "dq" | "doublequote" => some [(0x22, 0x22)]
  | "mb" | "midnumlet" => some midNumberLetter
  | "ml" | "midletter" => some midLetter
  | "mn" | "midnum" => some midNumber
  | "nu" | "numeric" => some numeric
  | "ex" | "extendnumlet" => some (Ranges.union Category.pcRanges [(0x202F, 0x202F)])
  | "wsegspace" => some wordSpace
  | _ => none

/-! ### Sentences -/

/-- Line ends that end a sentence. -/
def sentenceSeparator : Ranges := Ranges.ofText "85 2028-2029"

/-- Characters that sentences ignore behind others. -/
def sentenceExtend : Ranges :=
  Ranges.unionAll [extending, Category.mcRanges, [(0x200D, 0x200D)]]

/-- Format characters that sentences ignore. -/
def sentenceFormat : Ranges :=
  Ranges.diff Category.cfRanges (Ranges.unionAll [[(0x200C, 0x200D)], numberSign, tags])

/-- The letters of Georgian that are used without case. -/
def plainGeorgian : Ranges := Ranges.ofText "10D0-10FA 10FD-10FF"

/-- The letters of Georgian that are used for emphasis. -/
def grandGeorgian : Ranges := Ranges.ofText "1C90-1CBA 1CBD-1CBF"

/-- Lower-case letters, with which no sentence starts. -/
def sentenceLower : Ranges := Ranges.diff lowercase (Ranges.union extending plainGeorgian)

/-- Upper-case letters, with which a sentence may start. -/
def sentenceUpper : Ranges :=
  Ranges.diff (Ranges.union Category.ltRanges uppercase) grandGeorgian

def sentenceLetter : Ranges :=
  Ranges.diff (Ranges.union alphabetic [(0x5F3, 0x5F3)])
    (Ranges.unionAll [sentenceLower, sentenceUpper, sentenceExtend])

/-- Full stops that may also end an abbreviation. -/
def ambiguousTerminal : Ranges := Ranges.ofText "2E 2024 FE52 FF0E"

/-- Ornaments and brackets that may follow the end of a sentence. -/
def otherClosing : Ranges := Ranges.ofText "275B-2760 2E00-2E01 2E06-2E08 2E0B 1F676-1F678"

/-- Punctuation behind which a sentence goes on. -/
def sentenceContinue : Ranges := Ranges.ofText "
  2C-2D 3A-3B 37E 55D 60C-60D 7F8 1802 1808 2013-2014 3001 FE10-FE11 FE13-FE14 FE31-FE32 FE50-FE51
  FE54-FE55 FE58 FE63 FF0C-FF0D FF1A-FF1B FF64"

def closing : Ranges :=
  Ranges.union
    (Ranges.diff (Ranges.union (Category.rangesOf [.ps, .pe, .pi, .pf]) quotationMark)
      [(0xFF02, 0xFF02), (0xFF07, 0xFF07)])
    otherClosing

def sentenceBreak? (name : String) : Option Ranges :=
  match name with
  | "cr" => some [(0xD, 0xD)]
  | "lf" => some [(0xA, 0xA)]
  | "ex" | "extend" => some sentenceExtend
  | "se" | "sep" => some sentenceSeparator
  | "fo" | "format" => some sentenceFormat
  | "sp" => some (Ranges.diff blankRanges (Ranges.union sentenceSeparator ownBoundary))
  | "lo" | "lower" => some sentenceLower
  | "up" | "upper" => some sentenceUpper
  | "le" | "oletter" => some sentenceLetter
  | "nu" | "numeric" => some (Ranges.union numeric [(0x66C, 0x66C)])
  | "at" | "aterm" => some ambiguousTerminal
  | "sc" | "scontinue" => some sentenceContinue
  | "st" | "sterm" => some (Ranges.diff sentenceTerminal ambiguousTerminal)
  | "cl" | "close" => some closing
  | _ => none

end Unicode
end FeatureFlags
