import FeatureFlags.Unicode.Category

/-!
# Names in programs

Which characters may start a name and stand in one, in version 16.0 of the character database
(`identifierStart`, `identifierPart`): letters and what is listed beside them, and in the middle
also marks, digits and connectors, but nothing that is reserved for patterns. There are two
variants: what may stand in a name in every form of a text, and the signs of mathematics.
-/

namespace FeatureFlags
namespace Unicode

open Category (rangesOf letters)

/-- Characters reserved for the grammar of patterns. -/
def patternSyntax : Ranges := Ranges.ofText "
  21-2F 3A-40 5B-5E 60 7B-7E A1-A7 A9 AB-AC AE B0-B1 B6 BB BF D7 F7 2010-2027 2030-203E 2041-2053
  2055-205E 2190-245F 2500-2775 2794-2BFF 2E00-2E7F 3001-3003 3008-3020 3030 FD3E-FD3F FE45-FE46"

/-- White space in patterns. -/
def patternBlank : Ranges := Ranges.ofText "9-D 20 85 200E-200F 2028-2029"

/-- Characters that may start a name and are no letters. -/
def otherIdentifierStart : Ranges := Ranges.ofText "1885-1886 2118 212E 309B-309C"

/-- Characters that may stand in a name beside letters, marks, digits and connectors. -/
def otherIdentifierPart : Ranges := Ranges.ofText "B7 387 1369-1371 19DA 200C-200D 30FB FF65"

/-- What no name holds. -/
def outsideIdentifiers : Ranges := Ranges.union patternSyntax patternBlank

def identifierStart : Ranges :=
  Ranges.diff (Ranges.union (rangesOf (.nl :: letters)) otherIdentifierStart) outsideIdentifiers

def identifierPart : Ranges :=
  Ranges.diff
    (Ranges.unionAll [identifierStart, rangesOf [.mn, .mc, .nd, .pc], otherIdentifierPart])
    outsideIdentifiers

/-- Parts of names that other forms of the same text turn into something else. -/
def unstablePart : Ranges := Ranges.ofText "
  37A 309B-309C FC5E-FC63 FDFA-FDFB FE70 FE72 FE74 FE76 FE78 FE7A FE7C FE7E"

/-- Starts of names that other forms of the same text turn into something else. -/
def unstableStart : Ranges := Ranges.ofText "
  37A E33 EB3 309B-309C FC5E-FC63 FDFA-FDFB FE70 FE72 FE74 FE76 FE78 FE7A FE7C FE7E FF9E-FF9F"

/-- Characters that may start a name in every form of a text. -/
def stableIdentifierStart : Ranges := Ranges.diff identifierStart unstableStart

/-- Characters that may stand in a name in every form of a text. -/
def stableIdentifierPart : Ranges := Ranges.diff identifierPart unstablePart

/-- Signs of mathematics that may start a name. -/
def mathIdentifierStart : Ranges := Ranges.ofText "
  2202 2207 221E 1D6C1 1D6DB 1D6FB 1D715 1D735 1D74F 1D76F 1D789 1D7A9 1D7C3"

/-- Signs of mathematics that may stand in a name and not start one. -/
def mathIdentifierDigit : Ranges := Ranges.ofText "B2-B3 B9 2070 2074-207E 2080-208E"

def mathIdentifierPart : Ranges := Ranges.union mathIdentifierStart mathIdentifierDigit

end Unicode
end FeatureFlags
