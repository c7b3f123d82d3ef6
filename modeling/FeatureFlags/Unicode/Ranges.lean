import FeatureFlags.Text.Digit

/-!
# Ranges of code points

Character tables are lists of closed ranges. They are written as text: hexadecimal code points, or
two of them joined by a hyphen, with blanks between the entries.

The operations on sets expect ranges that ascend and lie apart, and give such ranges: the tables are
written that way, and `normalize` brings any list of ranges into that form.
-/

namespace FeatureFlags
namespace Unicode

abbrev Ranges : Type := List (Nat × Nat)

/-- The hexadecimal numbers of a text, whatever separates them; `current` is the one under way. -/
def hexNumbersFrom (current : Option Nat) : List Char → List Nat
  | [] => current.toList
  | c :: cs =>
    match Digit.hexadecimal? c with
    | some d => hexNumbersFrom (some (16 * current.getD 0 + d)) cs
    | none => current.toList ++ hexNumbersFrom none cs

def hexNumbers (cs : List Char) : List Nat := hexNumbersFrom none cs

/-- The pieces of a text between blanks; `current` is the one under way, last character first. -/
def wordsFrom (current : List Char) : List Char → List (List Char)
  | [] => if current.isEmpty then [] else [current.reverse]
  | c :: cs =>
    if c.isWhitespace then
      if current.isEmpty then wordsFrom [] cs else current.reverse :: wordsFrom [] cs
    else wordsFrom (c :: current) cs

def words (text : String) : List (List Char) := wordsFrom [] text.toList

def greatest : Nat := 0x10FFFF

/-- The next code point of a character; there are no characters from D800 to DFFF. -/
def next (n : Nat) : Nat := if n = 0xD7FF then 0xE000 else n + 1

/-- The code point of a character before `n`. -/
def previous (n : Nat) : Nat := if n = 0xE000 then 0xD7FF else n - 1

namespace Ranges

/-- The range that a piece of text describes. -/
def rangeOf? (cs : List Char) : Option (Nat × Nat) :=
  match hexNumbers cs with
  | [n] => some (n, n)
  | [first, last] => some (first, last)
  | _ => none

def ofText (text : String) : Ranges := (words text).filterMap rangeOf?

def contains (rs : Ranges) (n : Nat) : Bool := rs.any fun r => r.1 ≤ n && n ≤ r.2

/-! ### Sets

Unions are normalized. What two sets have in common is found by going through both lists at once,
and differences are made from that and from what a set leaves out. -/

/-- Ascending ranges behind the one under way, with those that touch made one. -/
def joinFrom (first last : Nat) : Ranges → Ranges
  | [] => [(first, last)]
  | (a, b) :: rs =>
    if a ≤ last + 1 then joinFrom first (max last b) rs else (first, last) :: joinFrom a b rs

/-- The same code points in ranges that ascend and lie apart. -/
def normalize (rs : Ranges) : Ranges :=
  match rs.mergeSort (fun r s => decide (r.1 ≤ s.1)) with
  | [] => []
  | (a, b) :: rs => joinFrom a b rs

def ofPoints (ns : List Nat) : Ranges := normalize (ns.map fun n => (n, n))

def union (rs ss : Ranges) : Ranges := normalize (rs ++ ss)

def unionAll (sets : List Ranges) : Ranges := normalize sets.flatten

def inter : Ranges → Ranges → Ranges
  | r :: rs, s :: ss =>
    let rest := if r.2 < s.2 then inter rs (s :: ss) else inter (r :: rs) ss
    if max r.1 s.1 ≤ min r.2 s.2 then (max r.1 s.1, min r.2 s.2) :: rest else rest
  | _, _ => []
termination_by rs ss => rs.length + ss.length

/-- The gaps between ranges, from `first` on. -/
def gapsFrom (first : Nat) : Ranges → Ranges
  | [] => if first ≤ greatest then [(first, greatest)] else []
  | (a, b) :: rs =>
    if first < a then (first, previous a) :: gapsFrom (next b) rs else gapsFrom (next b) rs

def gaps (rs : Ranges) : Ranges := gapsFrom 0 rs

def diff (rs ss : Ranges) : Ranges := inter rs (gaps ss)

def symmDiff (rs ss : Ranges) : Ranges := diff (union rs ss) (inter rs ss)

end Ranges
end Unicode
end FeatureFlags
