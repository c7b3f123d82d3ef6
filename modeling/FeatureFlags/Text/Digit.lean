/-!
# Digits

The values of decimal and hexadecimal digits, and the numbers that rows of decimal digits write.
Only digits of ASCII count. Rows of digits may be of any length, so numbers are natural numbers
without a bound.
-/

namespace FeatureFlags
namespace Digit

def decimal? (c : Char) : Option Nat :=
  if '0' ≤ c ∧ c ≤ '9' then some (c.toNat - '0'.toNat) else none

/-- The value of a hexadecimal digit of either case. -/
def hexadecimal? (c : Char) : Option Nat :=
  if 'a' ≤ c ∧ c ≤ 'f' then some (c.toNat - 'a'.toNat + 10)
  else if 'A' ≤ c ∧ c ≤ 'F' then some (c.toNat - 'A'.toNat + 10)
  else decimal? c

/-- The lower-case hexadecimal digit of a value below 16. -/
def ofValue (d : Nat) : Char :=
  if d < 10 then Char.ofNat ('0'.toNat + d) else Char.ofNat ('a'.toNat + (d - 10))

def isDecimal (c : Char) : Bool := (decimal? c).isSome

/-- The values of the leading decimal digits of a text, and what follows them. -/
def takeDecimals (cs : List Char) : List Nat × List Char :=
  ((cs.takeWhile isDecimal).filterMap decimal?, cs.dropWhile isDecimal)

/-- The number that the values of decimal digits write. -/
def number (ds : List Nat) : Nat := ds.foldl (fun n d => 10 * n + d) 0

/-- Whether digits write a number with a zero in front. -/
def hasLeadingZero : List Nat → Bool
  | 0 :: _ :: _ => true
  | _ => false

end Digit
end FeatureFlags
