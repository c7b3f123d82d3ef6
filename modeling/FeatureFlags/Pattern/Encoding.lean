import FeatureFlags.Pattern.CharSet

/-!
# Sets of characters as bytes

The UTF-8 encodings of a range of characters, as rows of ranges of bytes: a row stands for all
sequences that take one byte from each of its ranges.

A range is cut until each piece is one row (`pieces`): until its characters take the same number of
bytes, and until the bytes that follow the first byte that differs take all values. The first cuts
are at the greatest character of each length, the others at whole blocks of 64, 4096 and 262144
characters.
-/

namespace FeatureFlags
namespace Pattern
namespace Encoding

/-- Ranges of bytes in a row. -/
abbrev Row : Type := List (Nat × Nat)

/-- The part of a range up to `limit` and the part above it, those that are not empty. -/
def cutAbove (limit : Nat) (r : Nat × Nat) : List (Nat × Nat) :=
  if r.1 ≤ limit ∧ limit < r.2 then [(r.1, limit), (limit + 1, r.2)] else [r]

/-- A range without the code points from D800 to DFFF, which are no characters. -/
def cutSurrogates (r : Nat × Nat) : List (Nat × Nat) :=
  if r.1 < 0xE000 ∧ 0xD7FF < r.2 then
    [(r.1, 0xD7FF), (0xE000, r.2)].filter fun s => s.1 ≤ s.2
  else [r]

/-- Cut the last block of `size` off a range, if the range ends inside it and has other blocks. -/
def cutEnd (size : Nat) (r : Nat × Nat) : List (Nat × Nat) :=
  let start := r.2 / size * size
  if r.1 / size ≠ r.2 / size ∧ r.2 % size ≠ size - 1 then [(r.1, start - 1), (start, r.2)]
  else [r]

/-- Cut a range so that it lies in one block of `size`, or takes whole blocks. -/
def cutBlocks (size : Nat) (r : Nat × Nat) : List (Nat × Nat) :=
  let next := (r.1 / size + 1) * size
  if r.1 / size ≠ r.2 / size ∧ r.1 % size ≠ 0 then (r.1, next - 1) :: cutEnd size (next, r.2)
  else cutEnd size r

/-- The pieces of a range that take one row each. -/
def pieces (r : Nat × Nat) : List (Nat × Nat) :=
  ((((((cutSurrogates r).flatMap (cutAbove 0x7F)).flatMap (cutAbove 0x7FF)).flatMap
    (cutAbove 0xFFFF)).flatMap (cutBlocks 0x40)).flatMap (cutBlocks 0x1000)).flatMap
    (cutBlocks 0x40000)

def bytes (n : Nat) : List Nat := (String.utf8EncodeChar (Char.ofNat n)).map UInt8.toNat

def textBytes (cs : List Char) : List Nat := cs.flatMap fun c => bytes c.toNat

/-- The rows of a set, in ascending order. -/
def rows (s : CharSet) : List Row :=
  (s.flatMap pieces).map fun r => (bytes r.1).zip (bytes r.2)

end Encoding
end Pattern
end FeatureFlags
