import FeatureFlags.Pattern.Basic

/-!
# Automata that step through characters

The automaton of a pattern has states that wait for a character, that wait for an assertion to hold,
or that lead to two others; it accepts in one state. Repetitions are written out, turn by turn, and
only an unbounded one leads back to where it has been.

States go by their place in an array. A pattern is laid out in front of the state that follows it
(`layOut`), so the states that a state leads to are there before it; the fork of an unbounded
repetition is put right afterwards. Sets are kept apart and told by number, since most patterns use
one set many times.
-/

namespace FeatureFlags

inductive AutomatonState where
  | accept
  | char (c : Char) (next : Nat)
  /-- any character of a set, by its number -/
  | set (index : Nat) (next : Nat)
  | assertion (a : Pattern.Assertion) (next : Nat)
  | fork (next other : Nat)
deriving DecidableEq, Repr

/-- An automaton: its states, the sets of characters that they name, and the state to start in. -/
structure Automaton where
  states : Array AutomatonState
  sets : Array Pattern.CharSet
  start : Nat
deriving Repr

namespace Automaton

/-- States under construction, and the sets that they name. -/
structure Draft where
  states : Array AutomatonState
  sets : Array Pattern.CharSet

namespace Draft

def accepting : Draft := ⟨#[.accept], #[]⟩

def add (s : AutomatonState) (d : Draft) : Nat × Draft :=
  (d.states.size, { d with states := d.states.push s })

/-- The number of a set, which may be one of those before. -/
def setIndex (s : Pattern.CharSet) (d : Draft) : Nat × Draft :=
  match d.sets.idxOf? s with
  | some i => (i, d)
  | none => (d.sets.size, { d with sets := d.sets.push s })

/-- What lays out a part in front of a state, and gives the state that the part begins in. -/
abbrev Part : Type := Nat → Draft → Nat × Draft

def literal (cs : List Char) : Part := fun next d =>
  cs.foldr (fun c (next, d) => d.add (.char c next)) (next, d)

def copies (part : Part) : Nat → Part
  | 0, next, d => (next, d)
  | n + 1, next, d =>
    let (next, d) := part next d
    copies part n next d

/-- A part up to so many times; `last` is what follows any of its turns. -/
def optional (part : Part) (last : Nat) : Nat → Part
  | 0, next, d => (next, d)
  | n + 1, next, d =>
    let (first, d) := part next d
    let (next, d) := d.add (.fork first last)
    optional part last n next d

/-- A part once or more: behind it stands a fork that leads back to it. The state that it begins in,
and that fork. -/
def loop (part : Part) (next : Nat) (d : Draft) : Nat × Nat × Draft :=
  let (back, d) := d.add (.fork next next)
  let (first, d) := part back d
  (first, back, { d with states := d.states.setIfInBounds back (.fork first next) })

end Draft

/-- The states of a pattern. -/
def layOut : Pattern → Draft.Part
  | .empty, next, d => (next, d)
  | .literal cs, next, d => Draft.literal cs next d
  | .chars s, next, d =>
    let (i, d) := d.setIndex s
    d.add (.set i next)
  | .assertion a, next, d => d.add (.assertion a next)
  | .group _ p, next, d => layOut p next d
  | .seq p q, next, d =>
    let (next, d) := layOut q next d
    layOut p next d
  | .alt p q, next, d =>
    let (first, d) := layOut p next d
    let (other, d) := layOut q next d
    d.add (.fork first other)
  | .times p least most _, next, d =>
    match most with
    | some most =>
      let (first, d) := Draft.optional (layOut p) next (most - least) next d
      Draft.copies (layOut p) least first d
    | none =>
      let (first, back, d) := Draft.loop (layOut p) next d
      if least = 0 then (back, d) else Draft.copies (layOut p) (least - 1) first d

def ofPattern (p : Pattern) : Automaton :=
  let (start, d) := layOut p 0 .accepting
  ⟨d.states, d.sets, start⟩

end Automaton
end FeatureFlags
