import Std.Data.HashMap
import FeatureFlags.Pattern.Layout

/-!
# How large a pattern is

A pattern is accepted only if each of its two automata takes at most `limit` bytes (`isSmall`). The
layout of an automaton is counted without building it; `Layout.measure?` gives up as soon as the
limit is passed.
-/

namespace FeatureFlags
namespace Pattern

/-- The states counted so far, and the bytes they take. -/
structure Footprint where
  states : Nat
  bytes : Nat
deriving DecidableEq, Repr

namespace Footprint

def empty : Footprint := ⟨0, 0⟩

def limit : Nat := 10485760

/-- States counted, as long as they stay within the limit. -/
def grow? (f : Footprint) (states bytes : Nat) : Option Footprint :=
  if f.bytes + bytes ≤ limit then some ⟨f.states + states, f.bytes + bytes⟩ else none

/-! ### Shared states

A set beyond ASCII shares states: a state that is known by the same transitions as an earlier one is
that one, if it can still be found. It is looked up in a table of limited size, in which the place
of a state depends on its transitions, and each place holds the latest state that went there. Read
from the front, the rows of a set are a tree whose ends are shared; read from the back, they are
laid out one by one. -/

/-- The place of some numbers in a table of `size` places. -/
def placeOf (size : Nat) (ns : List Nat) : Nat :=
  let mixed := ns.foldl (fun (h : UInt64) n => (h ^^^ n.toUInt64) * 1099511628211)
    14695981039346656037
  mixed.toNat % size

/-- For each place the numbers that a state is known by, and its number. -/
abbrev Table : Type := Std.HashMap Nat (List Nat × Nat)

/-- The number of a state that is known by `key`: the one in the table, or a new one. -/
def share? (size : Nat) (key : List Nat) (bytes : Nat) (s : Table × Footprint) :
    Option (Nat × Table × Footprint) :=
  let (table, f) := s
  let place := placeOf size key
  match (table[place]?).filter fun entry => entry.1 = key with
  | some (_, state) => some (state, table, f)
  | none =>
    match f.grow? 1 bytes with
    | some g => some (f.states, table.insert place (key, f.states), g)
    | none => none

/-- The state that a tree begins in, if its rows end in the state `target`. The numbers of `key` are
the transitions of the edges so far, last first. -/
def treeState? (target : Nat) : RowTree → List Nat → Table × Footprint →
    Option (Nat × Table × Footprint)
  | .target, _, s => some (target, s)
  | .node, key, s => share? 10000 key.reverse (32 + 8 * (key.length / 3)) s
  | .edge r next others, key, s =>
    match treeState? target next [] s with
    | some (state, s) => treeState? target others (state :: r.2 :: r.1 :: key) s
    | none => none

def forwardSet? (t : RowTree) (f : Footprint) : Option Footprint := do
  let (_, _, g) ← treeState? f.states t [] (∅, ← f.grow? 1 32)
  return g

/-- The state in front of the last range of a row, if the state behind its first one is `state`. -/
def rowState? (state : Nat) : Encoding.Row → Table × Footprint → Option (Nat × Table × Footprint)
  | [], s => some (state, s)
  | r :: row, s =>
    match share? 1000 [state, r.1, r.2] 32 s with
    | some (state, s) => rowState? state row s
    | none => none

/-- Rows read from the back, each with a link that leads to it. -/
def rowStates? (target : Nat) : List Encoding.Row → Table × Footprint → Option Footprint
  | [], s => some s.2
  | row :: rows, s =>
    match rowState? target row s with
    | some (_, table, f) =>
      match f.grow? 0 4 with
      | some f => rowStates? target rows (table, f)
      | none => none
    | none => none

/-- A set read from the back: a fork, and the state that all rows end in. -/
def backwardSet? (rows : List Encoding.Row) (f : Footprint) : Option Footprint := do
  rowStates? (f.states + 1) rows (∅, ← f.grow? 2 64)

def iterate? (step : Footprint → Option Footprint) : Nat → Footprint → Option Footprint
  | 0, f => some f
  | n + 1, f =>
    match step f with
    | some f => iterate? step n f
    | none => none

end Footprint

def Layout.measure? : Layout → Footprint → Option Footprint
  | states n b, f => f.grow? n b
  | forwardSet t, f => f.forwardSet? t
  | backwardSet rows, f => f.backwardSet? rows
  | pair l m, f => (l.measure? f).bind m.measure?
  | copies n l, f => Footprint.iterate? l.measure? n f

/-- Whether the automata of a pattern stay within the limit. -/
def isSmall (p : Pattern) : Bool :=
  ((Layout.ofSearch .forward p).measure? .empty).isSome &&
    ((Layout.ofSearch .backward p).measure? .empty).isSome

end Pattern
end FeatureFlags
