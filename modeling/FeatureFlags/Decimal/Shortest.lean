import FeatureFlags.Binary64

/-!
# The shortest decimal that reads back

Of all decimals that round to a given binary64 number, `shortest` takes one with the fewest digits,
of those the nearest, and of two equally near the one with the even last digit.

The reals that round to a number form an interval, from halfway to the number below to halfway to
the number above (`readsBack`). The search runs over the decimal grids from coarse to fine. On each
grid only the two neighbours of the number can lie in the interval and be nearest (`neighbours`),
and the first grid with such a neighbour has the fewest digits (`candidate?`).

All comparisons are between products of naturals, so nothing is rounded on the way.
-/

namespace FeatureFlags
namespace Decimal

open Binary64 (Finite)

/-- The decimal `digits * 10^exponent`. -/
structure Dec where
  digits : Nat
  exponent : Int
deriving Repr, DecidableEq

/-- How many decimal digits `n` has; zero has none. -/
def length (n : Nat) : Nat :=
  if h : n = 0 then 0 else length (n / 10) + 1
termination_by n
decreasing_by exact Nat.div_lt_self (Nat.pos_of_ne_zero h) (by decide)

def compareTo (d : Dec) (num den : Nat) : Ordering :=
  compare (d.digits * Nat.pow 10 d.exponent.toNat * den) (num * Nat.pow 10 (-d.exponent).toNat)

/-- Whether `d` lies among the reals that round to `x`: from halfway to the number below to halfway
to the number above, the ends included if the mantissa is even. -/
def readsBack (x : Finite) (d : Dec) : Bool :=
  -- Everything is counted in quarters of the unit of the mantissa, so that both ends are integers.
  let quarter := Nat.pow 2 x.exponent.toNat
  let low := 4 * x.numerator - (if x.narrowBelow then quarter else 2 * quarter)
  let high := 4 * x.numerator + 2 * quarter
  let even := x.mantissa % 2 == 0
  let atLow := compareTo d low (4 * x.denominator)
  let atHigh := compareTo d high (4 * x.denominator)
  (atLow == .gt || (even && atLow == .eq)) && (atHigh == .lt || (even && atHigh == .eq))

/-- The least `k` with `x < 10^k`, for `x` above zero. -/
def magnitude (x : Finite) : Int :=
  if x.denominator ≤ x.numerator then length (x.numerator / x.denominator)
  else 1 - length ((x.denominator + x.numerator - 1) / x.numerator - 1)

/-- The decimals next to `x` on the grid of step `10^exponent`, below and above. -/
def neighbours (x : Finite) (exponent : Int) : Dec × Dec :=
  let below :=
    x.numerator * Nat.pow 10 (-exponent).toNat / (x.denominator * Nat.pow 10 exponent.toNat)
  (⟨below, exponent⟩, ⟨below + 1, exponent⟩)

/-- Whether `x` lies below the middle of `d` and its upper neighbour, at it, or above it. -/
def fromMiddle (x : Finite) (d : Dec) : Ordering :=
  (compareTo ⟨2 * d.digits + 1, d.exponent⟩ (2 * x.numerator) x.denominator).swap

def candidate? (x : Finite) (exponent : Int) : Option Dec :=
  let (below, above) := neighbours x exponent
  match readsBack x below, readsBack x above with
  | true, true =>
    match fromMiddle x below with
    | .lt => some below
    | .gt => some above
    | .eq => some (if below.digits % 2 = 0 then below else above)
  | true, false => some below
  | false, true => some above
  | false, false => none

/-- Move trailing zeros of the digits into the exponent. -/
def strip (d : Dec) : Dec :=
  if h : d.digits ≠ 0 ∧ d.digits % 10 = 0 then strip ⟨d.digits / 10, d.exponent + 1⟩ else d
termination_by d.digits
decreasing_by exact Nat.div_lt_self (Nat.pos_of_ne_zero h.1) (by decide)

/-- The shortest decimal for the magnitude of `x`. Seventeen digits always suffice; should none of
the grids answer, the exact value does. -/
def shortest (x : Finite) : Dec :=
  if x.mantissa = 0 then ⟨0, 0⟩
  else
    let k := magnitude x
    let found := (List.range 17).findSome? fun n => candidate? x (k - (n + 1 : Nat))
    strip (found.getD ⟨x.numerator * Nat.pow 5 (-x.exponent).toNat, min x.exponent 0⟩)

end Decimal
end FeatureFlags
