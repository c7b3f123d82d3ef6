import FeatureFlags.Pattern.CharSet
import FeatureFlags.Unicode.Letter

/-!
# Classes by letter and classes of ASCII

The classes that a pattern names by a letter behind a backslash (digits, blanks and words), and the
classes of ASCII that stand in brackets and colons. A letter in upper case names what its class
leaves out.
-/

namespace FeatureFlags
namespace Pattern

open Unicode (Category)

/-- The letters that name a class after a backslash. -/
def isClassLetter (c : Char) : Bool := "dswDSW".toList.contains c

def asciiWord : CharSet := [(0x30, 0x39), (0x41, 0x5A), (0x5F, 0x5F), (0x61, 0x7A)]

def asciiBlank : CharSet := [(0x09, 0x0D), (0x20, 0x20)]

/-- The class of a letter in lower case. In ASCII it has characters of ASCII only. -/
def letterClass (ascii : Bool) (c : Char) : CharSet :=
  if c = 'd' then if ascii then [(0x30, 0x39)] else Category.ranges .nd
  else if c = 's' then if ascii then asciiBlank else Unicode.blankRanges
  else if ascii then asciiWord
  else Unicode.wordPart

/-- The classes of ASCII that stand in brackets and colons. -/
def asciiClass? (name : String) : Option CharSet :=
  match name with
  | "alnum" => some [(0x30, 0x39), (0x41, 0x5A), (0x61, 0x7A)]
  | "alpha" => some [(0x41, 0x5A), (0x61, 0x7A)]
  | "ascii" => some [(0, 0x7F)]
  | "blank" => some [(0x09, 0x09), (0x20, 0x20)]
  | "cntrl" => some [(0, 0x1F), (0x7F, 0x7F)]
  | "digit" => some [(0x30, 0x39)]
  | "graph" => some [(0x21, 0x7E)]
  | "lower" => some [(0x61, 0x7A)]
  | "print" => some [(0x20, 0x7E)]
  | "punct" => some [(0x21, 0x2F), (0x3A, 0x40), (0x5B, 0x60), (0x7B, 0x7E)]
  | "space" => some asciiBlank
  | "upper" => some [(0x41, 0x5A)]
  | "word" => some asciiWord
  | "xdigit" => some [(0x30, 0x39), (0x41, 0x46), (0x61, 0x66)]
  | _ => none

end Pattern
end FeatureFlags
