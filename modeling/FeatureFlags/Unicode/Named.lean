import FeatureFlags.Unicode.Addition
import FeatureFlags.Unicode.Age
import FeatureFlags.Unicode.Boundary
import FeatureFlags.Unicode.Identifier
import FeatureFlags.Unicode.ScriptExtension

/-!
# Classes by name

The classes of characters that the names of the character database stand for: yes-or-no properties,
general categories and scripts by their name alone (`class?`), and properties with values by the
name of the property and the name of the value (`valueClass?`).

Names are compared without regard to case, spaces, hyphens, underscores and characters beyond ASCII,
and without an `is` at their start.
-/

namespace FeatureFlags
namespace Unicode

/-- A name without the `is` at its start. -/
def withoutIs : List Char → List Char
  | i :: s :: rest => if i.toLower = 'i' ∧ s.toLower = 's' then rest else i :: s :: rest
  | name => name

/-- A name in the form in which names are compared. What would become `c` is the name `isc`, which
is that of no class. -/
def normalName (name : List Char) : String :=
  let rest := withoutIs name
  let cs := (rest.filter fun c => !(c == ' ' || c == '_' || c == '-' || 127 < c.toNat)).map
    Char.toLower
  if rest.length < name.length ∧ cs = ['c'] then "isc" else String.ofList cs

/-! ### Properties -/

def letterProperty? (name : String) : Option Ranges :=
  match name with
  | "alphabetic" | "alpha" => some alphabetic
  | "lowercase" | "lower" => some lowercase
  | "uppercase" | "upper" => some uppercase
  | "whitespace" | "wspace" | "space" => some blankRanges
  | "asciihexdigit" | "ahex" => some asciiHexDigit
  | "hexdigit" | "hex" => some hexDigit
  | "softdotted" | "sd" => some softDotted
  | "extender" | "ext" => some extender
  | "joincontrol" | "joinc" => some joinControl
  | "idstart" | "ids" => some identifierStart
  | "idcontinue" | "idc" => some identifierPart
  | "xidstart" | "xids" => some stableIdentifierStart
  | "xidcontinue" | "xidc" => some stableIdentifierPart
  | "idcompatmathstart" => some mathIdentifierStart
  | "idcompatmathcontinue" => some mathIdentifierPart
  | "patternsyntax" | "patsyn" => some patternSyntax
  | "patternwhitespace" | "patws" => some patternBlank
  | "otheralphabetic" | "oalpha" => some otherAlphabetic
  | "otherlowercase" | "olower" => some otherLowercase
  | "otheruppercase" | "oupper" => some otherUppercase
  | "otheridstart" | "oids" => some otherIdentifierStart
  | "otheridcontinue" | "oidc" => some otherIdentifierPart
  | _ => none

def caseProperty? (name : String) : Option Ranges :=
  match name with
  | "cased" => some cased
  | "caseignorable" | "ci" => some caseIgnorable
  | "changeswhencasefolded" | "cwcf" => some changesInCaseFolding
  | "changeswhencasemapped" | "cwcm" => some changesInCase
  | "changeswhenlowercased" | "cwl" => some changesInLowercase
  | "changeswhentitlecased" | "cwt" => some changesInTitlecase
  | "changeswhenuppercased" | "cwu" => some changesInUppercase
  | _ => none

def markProperty? (name : String) : Option Ranges :=
  match name with
  | "diacritic" | "dia" => some diacritic
  | "graphemebase" | "grbase" => some base
  | "graphemeextend" | "grext" => some extending
  | "graphemelink" | "grlink" => some graphemeLink
  | "modifiercombiningmark" | "mcm" => some modifierCombiningMark
  | "variationselector" | "vs" => some variationSelector
  | "logicalorderexception" | "loe" => some logicalOrderException
  | "othergraphemeextend" | "ogrext" => some otherExtending
  | "bidicontrol" | "bidic" => some bidiControl
  | "bidimirrored" | "bidim" => some bidiMirrored
  | "prependedconcatenationmark" | "pcm" => some prependedConcatenationMark
  | "defaultignorablecodepoint" | "di" => some defaultIgnorable
  | "otherdefaultignorablecodepoint" | "odi" => some otherDefaultIgnorable
  | "noncharactercodepoint" | "nchar" => some noncharacter
  | "deprecated" | "dep" => some deprecated
  | _ => none

def signProperty? (name : String) : Option Ranges :=
  match name with
  | "dash" => some dash
  | "hyphen" => some hyphen
  | "quotationmark" | "qmark" => some quotationMark
  | "terminalpunctuation" | "term" => some terminalPunctuation
  | "sentenceterminal" | "sterm" => some sentenceTerminal
  | "math" => some math
  | "othermath" | "omath" => some otherMath
  | "ideographic" | "ideo" => some ideographic
  | "unifiedideograph" | "uideo" => some unifiedIdeograph
  | "radical" => some radical
  | "idsunaryoperator" | "idsu" => some unaryDescription
  | "idsbinaryoperator" | "idsb" => some binaryDescription
  | "idstrinaryoperator" | "idst" => some trinaryDescription
  | "emoji" => some emoji
  | "emojicomponent" | "ecomp" => some emojiComponent
  | "emojimodifier" | "emod" => some emojiModifier
  | "emojimodifierbase" | "ebase" => some emojiModifierBase
  | "emojipresentation" | "epres" => some emojiPresentation
  | "extendedpictographic" | "extpict" => some extendedPictographic
  | "regionalindicator" | "ri" => some regionalIndicator
  | _ => none

/-- The yes-or-no property of a name. -/
def property? (name : String) : Option Ranges :=
  (letterProperty? name).or ((caseProperty? name).or ((markProperty? name).or
    (signProperty? name)))

/-! ### Categories and scripts -/

/-- The general categories of a name, short or long, single or in groups. -/
def categories? (name : String) : Option (List Category) :=
  match name with
  | "lu" | "uppercaseletter" => some [.lu]
  | "ll" | "lowercaseletter" => some [.ll]
  | "lt" | "titlecaseletter" => some [.lt]
  | "lm" | "modifierletter" => some [.lm]
  | "lo" | "otherletter" => some [.lo]
  | "lc" | "casedletter" => some [.lu, .ll, .lt]
  | "l" | "letter" => some Category.letters
  | "mn" | "nonspacingmark" => some [.mn]
  | "mc" | "spacingmark" => some [.mc]
  | "me" | "enclosingmark" => some [.me]
  | "m" | "mark" | "combiningmark" => some Category.marks
  | "nd" | "decimalnumber" | "digit" => some [.nd]
  | "nl" | "letternumber" => some [.nl]
  | "no" | "othernumber" => some [.no]
  | "n" | "number" => some Category.numbers
  | "pc" | "connectorpunctuation" => some [.pc]
  | "pd" | "dashpunctuation" => some [.pd]
  | "ps" | "openpunctuation" => some [.ps]
  | "pe" | "closepunctuation" => some [.pe]
  | "pi" | "initialpunctuation" => some [.pi]
  | "pf" | "finalpunctuation" => some [.pf]
  | "po" | "otherpunctuation" => some [.po]
  | "p" | "punctuation" | "punct" => some Category.punctuation
  | "sm" | "mathsymbol" => some [.sm]
  | "sc" | "currencysymbol" => some [.sc]
  | "sk" | "modifiersymbol" => some [.sk]
  | "so" | "othersymbol" => some [.so]
  | "s" | "symbol" => some Category.symbols
  | "zs" | "spaceseparator" => some [.zs]
  | "zl" | "lineseparator" => some [.zl]
  | "zp" | "paragraphseparator" => some [.zp]
  | "z" | "separator" => some Category.separators
  | "cc" | "control" | "cntrl" => some [.cc]
  | "cf" | "format" => some [.cf]
  | "co" | "privateuse" => some [.co]
  | "cn" | "unassigned" => some [.cn]
  | "c" | "other" => some Category.others
  | _ => none

/-- The class of a general category; some stand for all characters, for those of ASCII and for those
that are assigned. -/
def categoryClass? (name : String) : Option Ranges :=
  match name with
  | "any" => some [(0, greatest)]
  | "ascii" => some [(0, 0x7F)]
  | "assigned" => some (Category.ranges .cn).gaps
  | _ => (categories? name).map Category.rangesOf

def scriptClass? (name : String) : Option Ranges := (Script.find? name).map (·.ranges)

/-! ### Classes -/

def class? (name : List Char) : Option Ranges :=
  let name := normalName name
  (property? name).or ((categoryClass? name).or (scriptClass? name))

def valueClass? (name value : List Char) : Option Ranges :=
  let value := normalName value
  match normalName name with
  | "gc" | "generalcategory" => categoryClass? value
  | "sc" | "script" => scriptClass? value
  | "scx" | "scriptextensions" => (Script.find? value).map (·.used)
  | "age" => Age.upTo? value
  | "gcb" | "graphemeclusterbreak" => graphemeBreak? value
  | "wb" | "wordbreak" => wordBreak? value
  | "sb" | "sentencebreak" => sentenceBreak? value
  | _ => none

end Unicode
end FeatureFlags
