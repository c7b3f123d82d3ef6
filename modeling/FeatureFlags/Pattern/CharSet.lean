import FeatureFlags.Unicode.CaseFold

/-!
# Sets of characters

The sets that a pattern can name, as ranges of code points that ascend and lie apart: what either,
both or exactly one of two sets has, what a set leaves out, and a set with all case variants of its
members.

Without the character database a set is one of bytes: it is complemented within the numbers up to
255 (`byteComplement`), only the letters of ASCII have case variants (`foldedAscii`), and in the end
it may hold nothing beyond ASCII.
-/

namespace FeatureFlags
namespace Pattern

open Unicode (Ranges)

abbrev CharSet : Type := Ranges

namespace CharSet

def single (c : Char) : CharSet := [(c.toNat, c.toNat)]

def any : CharSet := [(0, Unicode.greatest)]

def ofChars (cs : List Char) : CharSet := Ranges.ofPoints (cs.map Char.toNat)

/-- Whether the set holds characters of ASCII only. -/
def isAscii (s : CharSet) : Bool := s.all fun r => r.2 ≤ 0x7F

/-! ### Complements -/

/-- The range between two characters that differ. -/
def rangeBetween (a b : Nat) : Nat × Nat := (min a b, max a b)

/-- The gaps behind a range that ends in `last`. Two ranges that ascend and lie apart leave out at
least one code point between them. If those are just the code points from D800 to DFFF, which are no
characters, the gap starts behind its end, and it is read as the range of these two bounds. -/
def complementFrom (last : Nat) : CharSet → CharSet
  | [] => if last < Unicode.greatest then [(Unicode.next last, Unicode.greatest)] else []
  | (a, b) :: rs =>
    rangeBetween (Unicode.next last) (Unicode.previous a) :: complementFrom b rs

def complement : CharSet → CharSet
  | [] => any
  | (a, b) :: rs =>
    if 0 < a then (0, Unicode.previous a) :: complementFrom b rs else complementFrom b rs

def byteComplement (s : CharSet) : CharSet := Ranges.inter (Ranges.gaps s) [(0, 0xFF)]

/-! ### Case -/

/-- The lower-case letters of ASCII and the upper-case ones, shifted onto each other. -/
def asciiVariants (s : CharSet) : CharSet :=
  (Ranges.inter s [(0x41, 0x5A)]).map (fun r => (r.1 + 32, r.2 + 32)) ++
    (Ranges.inter s [(0x61, 0x7A)]).map fun r => (r.1 - 32, r.2 - 32)

def foldedAscii (s : CharSet) : CharSet := Ranges.normalize (s ++ asciiVariants s)

end CharSet
end Pattern
end FeatureFlags
