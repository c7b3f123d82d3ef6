import FeatureFlags.Pattern.Encoding
import FeatureFlags.Pattern.Normal

/-!
# Patterns that match a few fixed texts

Some patterns match just a few texts, which can be listed (`fixedTexts?`). Such a pattern is a
choice between them, so that it does not matter how large it is as it is written. Lists are short:
at most `maxTexts` texts of at most `maxBytes` bytes each, and no list on the way is longer.
-/

namespace FeatureFlags
namespace Pattern

/-- Whether a pattern has no assertions and no groups that count. -/
def isPlain : Pattern → Bool
  | empty => true
  | literal _ => true
  | chars _ => true
  | assertion _ => false
  | group _ _ => false
  | seq p q => isPlain p && isPlain q
  | alt p q => isPlain p && isPlain q
  | times p _ _ _ => isPlain p

namespace FixedTexts

def maxTexts : Nat := 250

def maxBytes : Nat := 100

/-- The greatest number of characters of a set, and of turns of a repetition, that are listed. -/
def maxListed : Nat := 10

def short? (texts : List (List Char)) : Option (List (List Char)) :=
  if texts.length ≤ maxTexts && texts.all fun t => (Encoding.textBytes t).length ≤ maxBytes then
    some texts
  else none

/-- The characters of a set, if they are few. -/
def ofSet? (s : CharSet) : Option (List (List Char)) :=
  let size := s.foldl (fun n r => n + (r.2 + 1 - r.1)) 0
  if size ≤ maxListed then
    some (s.flatMap fun r => (List.range (r.2 + 1 - r.1)).map fun k => [Char.ofNat (r.1 + k)])
  else none

def cross? (ss ts : List (List Char)) : Option (List (List Char)) :=
  if ss.length * ts.length ≤ maxTexts then short? (ss.flatMap fun s => ts.map (s ++ ·)) else none

def repeat? (ts : List (List Char)) : Nat → Option (List (List Char))
  | 0 => some [[]]
  | n + 1 => do cross? (← repeat? ts n) ts

/-- The texts that a pattern matches, if they can be listed. -/
def list? : Pattern → Option (List (List Char))
  | empty => some [[]]
  | literal cs => short? [cs]
  | chars s => ofSet? s
  | assertion _ => none
  | group _ _ => none
  | seq p q =>
    match list? p with
    | some [] => some []
    | some ss => do cross? ss (← list? q)
    | none => none
  | alt p q => do short? ((← list? p) ++ (← list? q))
  | times p least most _ =>
    match list? p with
    | none => none
    | some [] => if least = 0 then some [[]] else some []
    | some ts =>
      if least = 0 ∧ most = some 1 then short? (ts ++ [[]])
      else if most = some least ∧ least ≤ maxListed then repeat? ts least
      else none

end FixedTexts

/-- The texts that a pattern matches, if they are just a few, at least one, and none of them is
empty. -/
def fixedTexts? (p : Pattern) : Option (List (List Char)) := do
  guard (isPlain p)
  let texts ← FixedTexts.list? p
  guard (!texts.isEmpty && texts.all fun t => !t.isEmpty)
  return texts

end Pattern
end FeatureFlags
