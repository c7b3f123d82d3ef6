import FeatureFlags.Unicode.Format

/-!
# Characters of version 17.0

The names of groups in patterns and the quoting of names follow version 17.0 of the character
database, which adds characters to version 16.0 and leaves the others as they were.
-/

namespace FeatureFlags
namespace Unicode

/-- The characters that version 17.0 adds. All of them show by themselves or extend another. -/
def added : Ranges := Ranges.ofText "
  88F C5C CDC 1ACF-1ADD 1AE0-1AEB 20C1 2B96 A7CE-A7CF A7D2 A7D4 A7F1 FBC3-FBD2 FD90-FD91 FDC8-FDCE
  10940-10959 10EC5-10EC7 10ED0-10ED8 10EFA-10EFB 11B60-11B67 11DB0-11DDB 11DE0-11DE9 16EA0-16EB8
  16EBB-16ED3 16FF2-16FF6 187F8-187FF 18D09-18D1E 18D80-18DF2 1CCFA-1CCFC 1CEBA-1CED0 1CEE0-1CEF0
  1E6C0-1E6DE 1E6E0-1E6F5 1E6FE-1E6FF 1F6D8 1F777-1F77A 1F8D0-1F8D8 1FA54-1FA57 1FA8A 1FA8E 1FAC8
  1FACD 1FAEA 1FAEF 1FBFA 2B73A-2B73F 2CEA2-2CEAD 323B0-33479"

def addedAlphabetic : Ranges := Ranges.ofText "
  88F C5C CDC A7CE-A7CF A7D2 A7D4 A7F1 10940-10959 10EC5-10EC7 10EFA-10EFB 11B60-11B67 11DB0-11DDB
  16EA0-16EB8 16EBB-16ED3 16FF2-16FF6 187F8-187FF 18D09-18D1E 18D80-18DF2 1E6C0-1E6DE 1E6E0-1E6F5
  1E6FE-1E6FF 2B73A-2B73F 2CEA2-2CEAD 323B0-33479"

def addedNumber : Ranges := Ranges.ofText "11DE0-11DE9 16FF4-16FF6"

def addedExtending : Ranges := Ranges.ofText "
  1ACF-1ADD 1AE0-1AEB 10EFA-10EFB 11B60 11B62-11B64 11B66 1E6E3 1E6E6 1E6EE-1E6EF 1E6F5"

def isAlphabetic (n : Nat) : Bool := alphabetic.contains n || addedAlphabetic.contains n

def isNumber (n : Nat) : Bool :=
  (Category.rangesOf Category.numbers).contains n || addedNumber.contains n

/-- Whether a code point extends the character before it in version 17.0. The voiced sound marks of
half width take up a place of their own. -/
def isExtending (n : Nat) : Bool :=
  (extending.contains n || addedExtending.contains n) && !(0xFF9E ≤ n && n ≤ 0xFF9F)

/-- What does not show by itself: controls, format characters, unassigned code points, separators,
and what is ignored where it has no effect. -/
def hidden : Ranges :=
  Ranges.union (Category.rangesOf (Category.separators ++ Category.others)) defaultIgnorable

/-- Whether a code point shows by itself in version 17.0; the plain space does. -/
def isPrintable (n : Nat) : Bool := n = 0x20 || added.contains n || !hidden.contains n

end Unicode
end FeatureFlags
