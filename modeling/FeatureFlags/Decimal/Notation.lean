import FeatureFlags.Decimal.Shortest

/-!
# Decimals as text

How the digits of a decimal are laid out is a matter of the format that writes them. A `Layout`
holds the decisions; `render` lays a decimal out accordingly:

* positional text always shows a fraction (`1.0`); zeros fill the places between the digits and the
  point (`0.001`, `1200.0`);
* scientific text shows a fraction only if there are further digits (`1e+16`, `1.5e-7`).

Zero is written positionally; for all else the exponent of the leading digit decides.
-/

namespace FeatureFlags
namespace Decimal

/-- Where positional text begins and ends. -/
structure Layout where
  /-- least exponent of the leading digit that is written positionally -/
  plainFrom : Int
  /-- least exponent above `plainFrom` that is no longer written positionally -/
  plainBelow : Int
  /-- whether a scientific exponent from zero up carries a plus sign -/
  signedExponent : Bool

def digits (n : Nat) : List Char := (Nat.repr n).toList

/-- Positional text: the point stands after the first `point` digits. -/
def positional (ds : List Char) (point : Int) : List Char :=
  if point ≤ 0 then '0' :: '.' :: List.replicate (-point).toNat '0' ++ ds
  else if ds.length ≤ point.toNat then
    ds ++ List.replicate (point.toNat - ds.length) '0' ++ ['.', '0']
  else ds.take point.toNat ++ '.' :: ds.drop point.toNat

/-- Scientific text: the point stands after the first digit. -/
def scientific (layout : Layout) (ds : List Char) (exponent : Int) : List Char :=
  let fraction := match ds.drop 1 with
    | [] => []
    | rest => '.' :: rest
  let sign := if exponent < 0 then ['-'] else if layout.signedExponent then ['+'] else []
  ds.take 1 ++ fraction ++ 'e' :: sign ++ digits exponent.natAbs

def render (layout : Layout) (d : Dec) : List Char :=
  let ds := digits d.digits
  let point := ds.length + d.exponent
  if d.digits = 0 ∨ (layout.plainFrom ≤ point - 1 ∧ point - 1 < layout.plainBelow) then
    positional ds point
  else scientific layout ds (point - 1)

end Decimal
end FeatureFlags
