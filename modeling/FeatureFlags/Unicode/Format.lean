import FeatureFlags.Unicode.Letter
import FeatureFlags.Unicode.Mark

/-!
# Format and direction

Characters that steer how others are shown, and code points that should not occur, in version 16.0
of the character database.
-/

namespace FeatureFlags
namespace Unicode

/-- Characters that set the direction of text. -/
def bidiControl : Ranges := Ranges.ofText "61C 200E-200F 202A-202E 2066-2069"

/-- Characters that are mirrored in text from right to left. -/
def bidiMirrored : Ranges := Ranges.ofText "
  28-29 3C 3E 5B 5D 7B 7D AB BB F3A-F3D 169B-169C 2039-203A 2045-2046 207D-207E 208D-208E 2140
  2201-2204 2208-220D 2211 2215-2216 221A-221D 221F-2222 2224 2226 222B-2233 2239 223B-224C
  2252-2255 225F-2260 2262 2264-226B 226D-228C 228F-2292 2298 22A2-22A3 22A6-22B8 22BE-22BF
  22C9-22CD 22D0-22D1 22D6-22ED 22F0-22FF 2308-230B 2320-2321 2329-232A 2768-2775 27C0 27C3-27C6
  27C8-27C9 27CB-27CD 27D3-27D6 27DC-27DE 27E2-27EF 2983-2998 299B-29A0 29A2-29AF 29B8 29C0-29C5
  29C9 29CE-29D2 29D4-29D5 29D8-29DC 29E1 29E3-29E5 29E8-29E9 29F4-29F9 29FC-29FD 2A0A-2A1C
  2A1E-2A21 2A24 2A26 2A29 2A2B-2A2E 2A34-2A35 2A3C-2A3E 2A57-2A58 2A64-2A65 2A6A-2A6D 2A6F-2A70
  2A73-2A74 2A79-2AA3 2AA6-2AAD 2AAF-2AD6 2ADC 2ADE 2AE2-2AE6 2AEC-2AEE 2AF3 2AF7-2AFB 2AFD 2BFE
  2E02-2E05 2E09-2E0A 2E0C-2E0D 2E1C-2E1D 2E20-2E29 2E55-2E5C 3008-3011 3014-301B FE59-FE5E
  FE64-FE65 FF08-FF09 FF1C FF1E FF3B FF3D FF5B FF5D FF5F-FF60 FF62-FF63 1D6DB 1D715 1D74F 1D789
  1D7C3"

/-- Signs that are written around the characters behind them. -/
def prependedConcatenationMark : Ranges := Ranges.ofText "600-605 6DD 70F 890-891 8E2 110BD 110CD"

/-- Ignorable characters that are neither format characters nor variation selectors. -/
def otherDefaultIgnorable : Ranges := Ranges.ofText "
  34F 115F-1160 17B4-17B5 2065 3164 FFA0 FFF0-FFF8 E0000 E0002-E001F E0080-E00FF E01F0-E0FFF"

/-- Characters that are not shown where they have no effect. Some format characters are always
shown. -/
def defaultIgnorable : Ranges :=
  Ranges.diff (Ranges.unionAll [otherDefaultIgnorable, Category.cfRanges, variationSelector])
    (Ranges.unionAll [blankRanges, [(0xFFF9, 0xFFFB), (0x13430, 0x1343F)],
      prependedConcatenationMark])

/-- Code points that never stand for a character. -/
def noncharacter : Ranges := Ranges.ofText "
  FDD0-FDEF FFFE-FFFF 1FFFE-1FFFF 2FFFE-2FFFF 3FFFE-3FFFF 4FFFE-4FFFF 5FFFE-5FFFF 6FFFE-6FFFF
  7FFFE-7FFFF 8FFFE-8FFFF 9FFFE-9FFFF AFFFE-AFFFF BFFFE-BFFFF CFFFE-CFFFF DFFFE-DFFFF EFFFE-EFFFF
  FFFFE-FFFFF 10FFFE-10FFFF"

/-- Characters that should not be used. -/
def deprecated : Ranges := Ranges.ofText "149 673 F77 F79 17A3-17A4 206A-206F 2329-232A E0001"

end Unicode
end FeatureFlags
