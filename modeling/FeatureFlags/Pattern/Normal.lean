import FeatureFlags.Pattern.Basic

/-!
# Patterns in normal form

The functions that put patterns together keep them in a normal form:

* sequences and choices are flat (`sequence`, `choice`);
* a sequence has no empty parts and no two literals side by side;
* a set of one character is a literal;
* a choice between single characters, or between sets, is one set;
* what the parts of a choice begin with in common stands in front of it.

How large a pattern counts is a matter of this form.
-/

namespace FeatureFlags
namespace Pattern

/-! ### Sets -/

/-- The pattern that no text matches. -/
def never : Pattern := chars []

def ofSet : CharSet → Pattern
  | [(a, b)] => if a = b then literal [Char.ofNat a] else chars [(a, b)]
  | s => chars s

/-! ### Sequences -/

def parts : Pattern → List Pattern
  | empty => []
  | seq p q => p :: parts q
  | p => [p]

/-- The same parts, with literals side by side made one. -/
def joinLiterals : List Pattern → List Pattern
  | [] => []
  | p :: ps =>
    match p, joinLiterals ps with
    | literal cs, literal ds :: rest => literal (cs ++ ds) :: rest
    | p, rest => p :: rest

/-- Parts in a row, none of which is empty or a sequence. -/
def ofParts : List Pattern → Pattern
  | [] => empty
  | [p] => p
  | p :: ps => seq p (ofParts ps)

def sequence (ps : List Pattern) : Pattern := ofParts (joinLiterals (ps.flatMap parts))

/-! ### Choices -/

def choices : Pattern → List Pattern
  | alt p q => p :: choices q
  | p => [p]

/-- A choice between patterns, none of which is a choice. -/
def ofChoices : List Pattern → Pattern
  | [] => never
  | [p] => p
  | p :: ps => alt p (ofChoices ps)

def char? : Pattern → Option Char
  | literal [c] => some c
  | _ => none

def set? : Pattern → Option CharSet
  | chars s => some s
  | _ => none

/-- A choice between single characters, or between sets, is one set. -/
def joinSets? (ps : List Pattern) : Option Pattern :=
  match ps.mapM char?, ps.mapM set? with
  | some cs, _ => some (ofSet (.ofChars cs))
  | none, some sets => some (ofSet (Unicode.Ranges.unionAll sets))
  | none, none => none

/-- A choice between patterns, whatever they begin with. -/
def flatChoice (ps : List Pattern) : Pattern :=
  let ps := ps.flatMap choices
  (joinSets? ps).getD (ofChoices ps)

def commonStart : List Pattern → List Pattern → List Pattern
  | p :: ps, q :: qs => if p = q then p :: commonStart ps qs else []
  | _, _ => []

/-- The parts of a sequence of two or more. -/
def sequenceParts? : Pattern → Option (List Pattern)
  | seq p q => some (p :: parts q)
  | _ => none

/-- A choice between sequences that begin with the same parts: these parts, and a choice between
what follows them. -/
def factored? (ps : List Pattern) : Option Pattern :=
  match ps.mapM sequenceParts? with
  | some (first :: second :: rest) =>
    match (second :: rest).foldl commonStart first with
    | [] => none
    | start =>
      let ends := (first :: second :: rest).map fun qs => ofParts (qs.drop start.length)
      some (sequence (start ++ [flatChoice ends]))
  | _ => none

/-- A choice between patterns, with what they begin with in common in front of it. What follows the
common parts has no common parts again. -/
def choice (ps : List Pattern) : Pattern :=
  let ps := ps.flatMap choices
  match joinSets? ps with
  | some p => p
  | none => (factored? ps).getD (ofChoices ps)

/-! ### Repetitions -/

/-- Whether the pattern takes up no text: it has assertions only. -/
def isPoint : Pattern → Bool
  | empty => true
  | literal _ => false
  | chars _ => false
  | assertion _ => true
  | group _ p => isPoint p
  | seq p q => isPoint p && isPoint q
  | alt p q => isPoint p && isPoint q
  | times p _ most _ => most.isSome && isPoint p

/-- A repetition. What takes up no text needs no second turn. -/
def repetition (p : Pattern) (least : Nat) (most : Option Nat) (lazy : Bool) : Pattern :=
  let (least, most) :=
    if isPoint p then (min least 1, some ((most.map (min · 1)).getD 1)) else (least, most)
  if most = some 0 then empty
  else if least = 1 ∧ most = some 1 then p
  else times p least most lazy

end Pattern
end FeatureFlags
