import FeatureFlags.Pattern.Automaton

/-!
# Searching texts for patterns

A search steps through a text once, with all the states at a time that the automaton of the pattern
may be in. At each place a further match may start, so the start state is among them again. The text
holds a match as soon as one of the states accepts.

Between two characters, states are followed as far as they lead without one (`follow?`): through
forks, and through assertions that hold at the place. A table of the places at which states were
last met keeps a state from being followed twice, which also ends loops that take no text.
-/

namespace FeatureFlags
namespace Automaton

/-- Follow states as far as they lead without a character, in so many steps. The result is `waiting`
with the states that wait for a character, or none if a state accepts; `seen` holds for each state
the last place at which it was met, and a state is followed only once at each place. -/
def follow? (m : Automaton) (pl : Place) (place : Nat) :
    Nat → List Nat → List Nat → Array Nat → Option (List Nat × Array Nat)
  | 0, _, waiting, seen => some (waiting, seen)
  | _ + 1, [], waiting, seen => some (waiting, seen)
  | fuel + 1, s :: rest, waiting, seen =>
    if seen[s]? = some place then follow? m pl place fuel rest waiting seen
    else
      let seen := seen.setIfInBounds s place
      match m.states[s]? with
      | some .accept => none
      | some (.char _ _) | some (.set _ _) => follow? m pl place fuel rest (s :: waiting) seen
      | some (.assertion a next) =>
        follow? m pl place fuel (if a.holds pl then next :: rest else rest) waiting seen
      | some (.fork next other) => follow? m pl place fuel (next :: other :: rest) waiting seen
      | none => follow? m pl place fuel rest waiting seen

/-- The state behind the character `c`, if the state waits for it; `has` says which sets have it. -/
def step? (m : Automaton) (c : Char) (has : Array Bool) (s : Nat) : Option Nat :=
  match m.states[s]? with
  | some (.char d next) => if c = d then some next else none
  | some (.set i next) => if has.getD i false then some next else none
  | _ => none

/-- Whether a match ends in the rest of a text: `reached` are the states of the matches under way. -/
def search (m : Automaton) (place : Nat) (reached : List Nat) (seen : Array Nat)
    (before : Option Char) (text : List Char) : Bool :=
  -- Each state is followed once, and leads to at most two others.
  let fuel := reached.length + 2 * m.states.size + 2
  match follow? m ⟨before, text.head?⟩ place fuel (m.start :: reached) [] seen with
  | none => true
  | some (waiting, seen) =>
    match text with
    | [] => false
    | c :: cs =>
      let has := m.sets.map fun s => Unicode.Ranges.contains s c.toNat
      search m (place + 1) (waiting.filterMap (m.step? c has)) seen (some c) cs

def accepts (m : Automaton) (text : String) : Bool :=
  m.search 1 [] (Array.replicate m.states.size 0) none text.toList

end Automaton
end FeatureFlags
