import FeatureFlags.Pattern.Escape

/-!
# Sets in brackets

A set in brackets lists characters, ranges, classes and sets in brackets again, and combines such
lists by operators: `&&` for what both have, `--` for what only the left has, `~~` for what just one
has. All operators bind alike, from the left.

The reader (`brackets?`) keeps a stack of the brackets and operators under way. An operator waits
for its right side, which the next operator or the closing bracket ends. Some characters only count
as items at the start of brackets: hyphens, and a closing bracket that comes first (`openBracket`).
-/

namespace FeatureFlags
namespace Pattern

inductive SetOperator where
  | inter
  | diff
  | symmDiff

/-- A set under construction, with how deep brackets nest in it. -/
structure SetPiece where
  set : CharSet
  height : Nat

/-- What brackets wait for. -/
inductive SetFrame where
  /-- the end of brackets, inside the items given, last first -/
  | bracket (outer : List SetPiece) (negated : Bool)
  | operator (op : SetOperator) (left : SetPiece)

/-- The union of items, given last first. -/
def unionOf (items : List SetPiece) : SetPiece :=
  match items with
  | [] => ⟨[], 0⟩
  | [s] => s
  | _ => ⟨Unicode.Ranges.unionAll (items.map (·.set)),
      items.foldl (fun h s => max h s.height) 0 + 1⟩

def combine (o : Options) (op : SetOperator) (left right : SetPiece) : SetPiece :=
  let l := foldCase o left.set
  let r := foldCase o right.set
  let s := match op with
    | .inter => l.inter r
    | .diff => l.diff r
    | .symmDiff => l.symmDiff r
  ⟨s, max left.height right.height + 1⟩

def finishOperator (o : Options) (stack : List SetFrame) (right : SetPiece) :
    List SetFrame × SetPiece :=
  match stack with
  | .operator op left :: rest => (rest, combine o op left right)
  | _ => (stack, right)

/-- Hyphens at the start of brackets are items. -/
def leadingHyphens (o : Options) (items : List SetPiece) :
    Nat → List Char → List SetPiece × List Char
  | 0, cs => (items, cs)
  | fuel + 1, cs =>
    match cs with
    | '-' :: rest => leadingHyphens o (⟨CharSet.single '-', 0⟩ :: items) fuel (skip o rest)
    | _ => (items, cs)

/-- The start of brackets, behind the opening one: whether they are negated, and the items that only
count as such in this place. -/
def openBracket (o : Options) (cs : List Char) : Bool × List SetPiece × List Char :=
  let cs := skip o cs
  let (negated, cs) := match cs with
    | '^' :: rest => (true, skip o rest)
    | _ => (false, cs)
  let (items, cs) := leadingHyphens o [] cs.length cs
  match items, cs with
  | [], ']' :: rest => (negated, [⟨CharSet.single ']', 0⟩], skip o rest)
  | _, _ => (negated, items, cs)

/-- A class of ASCII in brackets and colons, behind the opening bracket. -/
def asciiItem? (o : Options) (cs : List Char) : Option (Option SetPiece × List Char) := do
  let cs ← match cs with
    | ':' :: rest => some rest
    | _ => none
  let (negated, cs) := match cs with
    | '^' :: rest => (true, rest)
    | _ => (false, cs)
  let name := cs.takeWhile (· != ':')
  let rest ← match cs.dropWhile (· != ':') with
    | ':' :: ']' :: rest => some rest
    | _ => none
  let s ← asciiClass? (String.ofList name)
  return ((finishSet? o negated s).map fun s => ⟨s, 0⟩, rest)

def setItem? (o : Options) : List Char → Option (Atom × List Char)
  | '\\' :: cs => escape? o cs
  | c :: cs => some (.char c false, cs)
  | [] => none

def setChar? (o : Options) : Atom → Option Nat
  | .char c _ => if o.unicode || c.toNat < 128 then some c.toNat else none
  | _ => none

/-- What stands behind a hyphen, to tell a range from a single item. Blanks and at most one number
sign are passed over; if nothing else follows them, it is what comes first. -/
def afterHyphen (o : Options) (cs : List Char) : Option Char :=
  if !o.spaced then cs.head?
  else
    let rest := match dropBlanks cs with
      | '#' :: rest => dropBlanks rest
      | rest => rest
    rest.head?.or cs.head?

/-- An item or a range of brackets. A hyphen in front of a bracket or another hyphen makes no range.
-/
def setRange? (o : Options) (cs : List Char) : Option (SetPiece × List Char) := do
  let (first, cs) ← setItem? o cs
  let single := do
    match first with
    | .set s => some ⟨s, 0⟩
    | first => let n ← setChar? o first; some ⟨[(n, n)], 0⟩
  match skip o cs with
  | [] => none
  | '-' :: rest =>
    if afterHyphen o rest = some ']' ∨ afterHyphen o rest = some '-' then
      return (← single, '-' :: rest)
    else
      let (last, rest) ← setItem? o (skip o rest)
      let m ← setChar? o first
      let n ← setChar? o last
      guard (m ≤ n)
      return (⟨[(m, n)], 0⟩, rest)
  | rest => return (← single, rest)

def brackets? (o : Options) : Nat → List SetFrame → List SetPiece → List Char →
    Option (SetPiece × List Char)
  | 0, _, _, _ => none
  | fuel + 1, stack, items, cs =>
    let operate := fun op rest =>
      let (stack, left) := finishOperator o stack (unionOf items)
      brackets? o fuel (.operator op left :: stack) [] rest
    match skip o cs with
    | [] => none
    | ']' :: rest =>
      let (stack, s) := finishOperator o stack (unionOf items)
      match stack with
      | .bracket outer negated :: below => do
        let set ← finishSet? o negated s.set
        if below.isEmpty then return (⟨set, s.height + 1⟩, rest)
        else brackets? o fuel below (⟨set, s.height + 1⟩ :: outer) rest
      | _ => none
    | '&' :: '&' :: rest => operate .inter rest
    | '-' :: '-' :: rest => operate .diff rest
    | '~' :: '~' :: rest => operate .symmDiff rest
    | '[' :: rest =>
      match asciiItem? o rest with
      | some (some s, rest) => brackets? o fuel stack (s :: items) rest
      | some (none, _) => none
      | none =>
        let (negated, inner, rest) := openBracket o rest
        brackets? o fuel (.bracket items negated :: stack) inner rest
    | rest => do
      let (s, rest) ← setRange? o rest
      brackets? o fuel stack (s :: items) rest

def bracketSet? (o : Options) (cs : List Char) : Option (SetPiece × List Char) :=
  let (negated, items, rest) := openBracket o cs
  brackets? o (cs.length + 1) [.bracket [] negated] items rest

end Pattern
end FeatureFlags
