import FeatureFlags.Json.Value
import FeatureFlags.Text.Digit

/-!
# Numbers as JSON texts write them

A numeral is an optional minus sign, digits without a leading zero, an optional fraction and an
optional exponent. Without fraction and exponent it denotes an integer if that fits 64 bits, signed
or not; else it denotes a binary64 number. That is reached by machine arithmetic, in three steps:

* the digits are gathered into a significand of 64 bits (`gather`);
* what no longer fits only counts for the power of ten;
* the significand is scaled by that power, with one multiplication or division unless the power is
  beyond what one number can hold (`scale?`).

A numeral beyond the range of binary64 is well-formed and denotes nothing.
-/

namespace FeatureFlags
namespace Json

/-- The parts of a numeral, as digits from 0 to 9. -/
structure Numeral where
  negative : Bool
  whole : List Nat
  fraction : List Nat
  /-- whether fraction or exponent are written at all -/
  decimal : Bool
  exponent : Int
deriving Repr, DecidableEq

namespace Numeral

/-- The text after `e`: an optional sign and at least one digit, and nothing else. -/
def exponentOf? (cs : List Char) : Option Int :=
  let (negative, cs) := match cs with
    | '+' :: r => (false, r)
    | '-' :: r => (true, r)
    | r => (false, r)
  match Digit.takeDecimals cs with
  | ([], _) => none
  | (ds, []) => some (if negative then -(Digit.number ds : Int) else Digit.number ds)
  | (_, _ :: _) => none

/-- The text after the digits before the point. -/
def tail? (negative : Bool) (whole : List Nat) : List Char → Option Numeral
  | [] => some ⟨negative, whole, [], false, 0⟩
  | '.' :: cs =>
    match Digit.takeDecimals cs with
    | ([], _) => none
    | (fraction, []) => some ⟨negative, whole, fraction, true, 0⟩
    | (fraction, e :: rest) => do
      guard (e = 'e' ∨ e = 'E')
      return ⟨negative, whole, fraction, true, ← exponentOf? rest⟩
  | e :: rest => do
    guard (e = 'e' ∨ e = 'E')
    return ⟨negative, whole, [], true, ← exponentOf? rest⟩

/-- The numeral that a whole text is. -/
def ofChars? (cs : List Char) : Option Numeral :=
  let (negative, cs) := match cs with
    | '-' :: r => (true, r)
    | r => (false, r)
  match Digit.takeDecimals cs with
  | ([], _) => none
  | (0 :: _ :: _, _) => none
  | (whole, rest) => tail? negative whole rest

/-- Digits join the significand as long as it fits 64 bits; the digits left over are returned. -/
def gather (significand : Nat) : List Nat → Nat × List Nat
  | [] => (significand, [])
  | d :: ds => if 10 * significand + d < UInt64.size then gather (10 * significand + d) ds
    else (significand, d :: ds)

def powerOfTen (n : Nat) : Float := Float.ofScientific 1 false n

/-- Multiply by a power of ten, or divide. Powers beyond 10^308 are taken in steps; a result beyond
binary64 is none. -/
def scale? (x : Float) (exponent : Int) : Option Float :=
  if 0 ≤ exponent then
    if exponent ≤ 308 then
      let y := x * powerOfTen exponent.toNat
      if y.isInf then none else some y
    else if x == 0.0 then some x else none
  else if -308 ≤ exponent then some (x / powerOfTen exponent.natAbs)
  else if x == 0.0 then some x
  else scale? (x / powerOfTen 308) (exponent + 308)
termination_by exponent.natAbs
decreasing_by omega

def toFloat? (n : Numeral) : Option Float := do
  let (significand, dropped) := gather 0 n.whole
  let (significand, ignored) := gather significand n.fraction
  let gathered := n.fraction.length - ignored.length
  -- Digits dropped before the point raise the exponent, digits gathered behind it lower it.
  let x ← scale? (Float.ofNat significand) (n.exponent + dropped.length - gathered)
  return if n.negative then -x else x

/-- The number that the numeral denotes. A negative zero is no integer. -/
def value? (n : Numeral) : Option Number :=
  let magnitude := Digit.number n.whole
  if n.decimal then n.toFloat?.map .float
  else if n.negative then
    if 0 < magnitude ∧ Binary64.least ≤ -(magnitude : Int) then some (.int (-magnitude))
    else n.toFloat?.map .float
  else if magnitude < UInt64.size then some (.int magnitude)
  else n.toFloat?.map .float

end Numeral
end Json
end FeatureFlags
