/-!
# Exact values of binary64 numbers

A finite binary64 number is an integer times a power of two. This module reads mantissa and exponent
off the bits, rounds integers to the 53 significant bits that such a number has, and says which
numbers are whole. Everything here is integer or rational arithmetic, so it can be reasoned about;
the machine type `Float` is only taken apart.

The main statement is `roundNat_of_lt`: integers below `exactBound` are kept.
-/

namespace FeatureFlags
namespace Binary64

/-! ### Rounding integers

The mantissa of `n` are its leading 53 bits. What is cut off decides whether they are taken as they
are or raised by one; raising may carry into one more bit, which is a zero at the end. -/

/-- Two to the power 53: up to here every integer is a binary64 number. -/
def exactBound : Nat := 9007199254740992

/-- The nearest integer with at most 53 significant bits; a tie goes to the even mantissa. -/
def roundNat (n : Nat) : Nat :=
  if n < exactBound then n
  else
    let unit := Nat.pow 2 (n.log2 - 52)
    let mantissa := n / unit
    let rest := n % unit
    if 2 * rest < unit ∨ (2 * rest = unit ∧ mantissa % 2 = 0) then mantissa * unit
    else (mantissa + 1) * unit

def roundInt (n : Int) : Int :=
  if n < 0 then -(roundNat n.natAbs : Int) else roundNat n.natAbs

theorem roundNat_of_lt {n : Nat} (h : n < exactBound) : roundNat n = n := by
  rw [roundNat, if_pos h]

/-! ### Finite numbers taken apart

A bit pattern has eleven bits of exponent between the sign and the mantissa. The least exponent
marks the numbers without a leading bit, the greatest one what is not finite. -/

/-- The number `±mantissa * 2^exponent`. -/
structure Finite where
  negative : Bool
  /-- below 2^53 -/
  mantissa : Nat
  /-- from -1074 up -/
  exponent : Int
  /-- whether the gap to the number below is half the gap to the number above -/
  narrowBelow : Bool
deriving Repr, DecidableEq

/-- Two to the power 52: the leading bit of a mantissa, which bit patterns leave out. -/
def leadingBit : Nat := 4503599627370496

/-- Mantissa and exponent of a bit pattern; `none` for the infinities and for what is no number. -/
def ofBits (bits : UInt64) : Option Finite :=
  let negative := bits >>> 63 == 1
  let field := ((bits >>> 52) &&& 0x7FF).toNat
  let fraction := (bits &&& 0xFFFFFFFFFFFFF).toNat
  -- The greatest exponent is that of the infinities, the least that of numbers without leading bit.
  if field = 0x7FF then none
  else if field = 0 then some ⟨negative, fraction, -1074, false⟩
  else some ⟨negative, leadingBit + fraction, (field : Int) - 1075, fraction == 0 && field > 1⟩

def ofFloat (x : Float) : Option Finite := ofBits x.toBits

namespace Finite

/-- The numerator of the magnitude over `denominator`. -/
def numerator (x : Finite) : Nat := x.mantissa * Nat.pow 2 x.exponent.toNat

/-- The power of two under the magnitude. -/
def denominator (x : Finite) : Nat := Nat.pow 2 (-x.exponent).toNat

def toRat (x : Finite) : Rat :=
  let magnitude := mkRat x.numerator x.denominator
  if x.negative then -magnitude else magnitude

/-- The value as an integer, if it has no fraction. -/
def toInt? (x : Finite) : Option Int :=
  if x.numerator % x.denominator = 0 then
    let magnitude : Int := x.numerator / x.denominator
    some (if x.negative then -magnitude else magnitude)
  else none

end Finite

/-! ### Whole numbers

A number counts as whole if it has no fraction and lies between -2^63 (`least`) and 2^63. The upper
end is one above the greatest signed integer of 64 bits (`greatest`): that integer is not a binary64
number, and rounds to it. -/

def least : Int := -9223372036854775808

def greatest : Int := 9223372036854775807

/-- A value from -2^63 to 2^63, both included, counts as a signed 64-bit integer; the upper end,
which no such integer equals, counts as the greatest of them. -/
def clamp? (n : Int) : Option Int :=
  if least ≤ n ∧ n ≤ greatest + 1 then some (min n greatest) else none

end Binary64
end FeatureFlags
