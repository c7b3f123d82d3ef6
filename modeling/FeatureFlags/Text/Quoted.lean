import FeatureFlags.Unicode.Addition

/-!
# Names quoted in messages

A name stands in double quotes. Quotes, backslashes and the usual control characters are escaped by
a letter; any other character that does not show by itself, or that would extend the one before it,
is written as its hexadecimal code point in braces.
-/

namespace FeatureFlags
namespace Quoted

/-- The hexadecimal digits of a code point, without leading zeros. -/
def hexDigits (n : Nat) : List Char := Nat.toDigits 16 n

def escape (c : Char) : List Char :=
  match c with
  | '"' => ['\\', '"']
  | '\\' => ['\\', '\\']
  | '\n' => ['\\', 'n']
  | '\r' => ['\\', 'r']
  | '\t' => ['\\', 't']
  | '\x00' => ['\\', '0']
  | c =>
    if ' ' ≤ c ∧ c ≤ '~' then [c]
    else if Unicode.isExtending c.toNat || !Unicode.isPrintable c.toNat then
      '\\' :: 'u' :: '\x7b' :: hexDigits c.toNat ++ ['\x7d']
    else [c]

/-- A name in quotes. -/
def quote (name : String) : String :=
  String.ofList ('"' :: name.toList.flatMap escape ++ ['"'])

end Quoted
end FeatureFlags
