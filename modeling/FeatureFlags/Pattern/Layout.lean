import FeatureFlags.Pattern.Encoding
import FeatureFlags.Pattern.Normal

/-!
# Layouts of patterns

The states of an automaton that steps through the bytes of a text and searches it for a pattern, in
the order in which they would be laid out. There is one automaton for each end of a text.

A `Layout` is not the automaton itself. It only says how many states there are, how many bytes they
take, and which sets beyond ASCII stand among them; that is all that the size depends on. A state
takes 32 bytes, each of its transitions 8, and each link that leaves a fork 4. Only for sets beyond
ASCII does it matter which numbers the states have: such sets share states, and the numbers decide
which ones.

Repetitions are written out, turn by turn.
-/

namespace FeatureFlags
namespace Pattern

/-- From which end of a text an automaton steps through it. -/
inductive Direction where
  | forward
  | backward
deriving DecidableEq, Repr

/-- Rows of ranges of bytes as a tree. -/
inductive RowTree where
  | target
  /-- a node without further edges -/
  | node
  /-- a node with an edge for a range of bytes, and the further edges of `others` -/
  | edge (range : Nat × Nat) (next others : RowTree)
deriving Repr

namespace RowTree

def ofRow : Encoding.Row → RowTree
  | [] => target
  | r :: row => edge r (ofRow row) node

/-- A tree with a further row in front of all others. It follows the first edge of a node if that
has the same range. -/
def insert : Encoding.Row → RowTree → RowTree
  | [], _ => target
  | r :: row, edge q next others =>
    if r = q then edge q (insert row next) others else edge r (ofRow row) (edge q next others)
  | r :: row, _ => edge r (ofRow row) node

def ofRows (rows : List Encoding.Row) : RowTree := rows.foldr insert node

end RowTree

/-- States in the order in which they are laid out. -/
inductive Layout where
  /-- states and the bytes that they take, links included -/
  | states (count bytes : Nat)
  | forwardSet (t : RowTree)
  | backwardSet (rows : List Encoding.Row)
  | pair (l m : Layout)
  | copies (n : Nat) (l : Layout)
deriving Repr

namespace Layout

/-! ### Parts -/

def state (transitions : Nat) : Layout := states 1 (32 + 8 * transitions)

def fork (links : Nat) : Layout := states 1 (32 + 4 * links)

def links (n : Nat) : Layout := states 0 (4 * n)

def andThen : Layout → Layout → Layout
  | states m b, states n c => states (m + n) (b + c)
  | l, m => pair l m

def ofList (ls : List Layout) : Layout := ls.foldr andThen (states 0 0)

def times (n : Nat) : Layout → Layout
  | states m b => states (n * m) (n * b)
  | l => copies n l

def ofSet (d : Direction) (s : CharSet) : Layout :=
  if s.isAscii then ofList [state 0, state s.length]
  else
    match d with
    | .forward => forwardSet (RowTree.ofRows (Encoding.rows s))
    | .backward => backwardSet (Encoding.rows s)

/-! ### Choices between words

A choice between literals is laid out as one tree, whose nodes are the bytes that words begin with
in common. The order of the words counts, as an earlier one is preferred: where a word ends, those
before it and those behind it go into different states. -/

/-- Words cut into the stretches between the empty ones. -/
def stretches : List (List Nat) → List (List (List Nat))
  | [] => [[]]
  | [] :: words => [] :: stretches words
  | word :: words =>
    match stretches words with
    | [] => [[word]]
    | s :: rest => (word :: s) :: rest

/-- The words of a node, in stretches. Empty words in front of all others count as one. -/
def nodeStretches : List (List Nat) → List (List (List Nat))
  | [] :: words => [] :: stretches (words.dropWhile List.isEmpty)
  | words => stretches words

/-- What follows the byte `b` in a word. -/
def behind? (b : Nat) : List Nat → Option (List Nat)
  | c :: word => if b = c then some word else none
  | [] => none

/-- A tree of words of at most `depth` bytes: a node has a state for each stretch, with a transition
for each byte that a word of the stretch begins with, and a fork between these states and the end.
-/
def ofWords : Nat → List (List Nat) → Layout
  | 0, _ => states 0 0
  | depth + 1, words =>
    let nodes := nodeStretches words
    let ofStretch := fun (stretch : List (List Nat)) =>
      let firsts := (stretch.filterMap List.head?).eraseDups
      let below := firsts.map fun b =>
        let tails := stretch.filterMap (behind? b)
        if tails.all List.isEmpty then states 0 0 else ofWords depth tails
      match firsts.length with
      | 0 => states 0 0
      | 1 => ofList (state 0 :: links 1 :: below)
      | n => ofList (state n :: links 1 :: below)
    ofList (fork (nodes.length - 1) :: nodes.map ofStretch)

/-- The bytes of the literals of a choice, if it has literals only. -/
def words? (p : Pattern) : Option (List (List Nat)) :=
  (choices p).mapM fun q =>
    match q with
    | literal cs => some (Encoding.textBytes cs)
    | _ => none

def wordChoice (d : Direction) (words : List (List Nat)) : Layout :=
  let words := match d with
    | .forward => words
    | .backward => words.map List.reverse
  ofList [state 0, ofWords (words.foldl (fun n word => max n word.length) 0) words]

/-! ### Repetitions

If the last state of a part is a fork, what follows is one more link of it. That is why the layouts
below are told how many links a part's last state takes. -/

/-- The least number of characters of a text that matches; none if a part matches no text. -/
def leastLength? : Pattern → Option Nat
  | empty => some 0
  | literal cs => some cs.length
  | chars s => if s.isEmpty then none else some 1
  | assertion _ => some 0
  | group _ p => leastLength? p
  | seq p q => do return (← leastLength? p) + (← leastLength? q)
  | alt p q => do return min (← leastLength? p) (← leastLength? q)
  | Pattern.times p least _ _ => (leastLength? p).map (· * least)

/-- Whether no match of the pattern is empty, as far as is known. -/
def takesText (p : Pattern) : Bool := (leastLength? p).getD 0 != 0

/-- Whether the last state of a pattern is a fork, which takes a link to what follows. -/
def endsInFork (d : Direction) : Pattern → Bool
  | group _ p => d == .backward && endsInFork d p
  | seq p q =>
    match d with
    | .forward => endsInFork d q
    | .backward => endsInFork d p
  | Pattern.times p least most _ =>
    match most with
    | none => least != 0 || takesText p
    | some most => least == most && endsInFork d p
  | _ => false

/-- A pattern `n` times in a row, if its layout is `l` and its last state takes `ends` links to what
follows. -/
def inRow (l : Layout) (ends : Nat) : Nat → Layout
  | 0 => state 0
  | n + 1 => andThen (times n (andThen l (links ends))) l

/-- A repetition without an upper bound. -/
def unbounded (l : Layout) (ends : Nat) (takesText : Bool) : Nat → Layout
  | 0 =>
    if takesText then ofList [fork 1, l, links ends]
    -- One turn or more behind a fork, so that a turn spent on nothing ends them.
    else ofList [l, links ends, fork 2, fork 2, state 0]
  | least + 1 => ofList [times least (andThen l (links ends)), l, links ends, fork 1]

/-- A repetition between two bounds: the turns that may be left out stand behind forks. -/
def bounded (l : Layout) (ends least most : Nat) : Layout :=
  if least = 0 ∧ most = 1 then ofList [fork 2, l, links ends, state 0]
  else if least = most then inRow l ends least
  else
    ofList [inRow l ends least, links (if least = 0 then 0 else ends), state 0,
      times (most - least) (ofList [fork 2, l, links ends])]

/-! ### Patterns

A choice is a fork with a link for each option, whose links count as the options are laid out. -/

/-- Where a pattern stands in a choice. -/
inductive Standing where
  | first
  | second
  | later
deriving DecidableEq, Repr

/-- What follows an option of a choice. Fork and end of the choice are laid out behind the second
option. -/
def afterOption (ends : Nat) : Standing → Layout
  | .first => states 0 0
  | .second => ofList [links (ends + 1), fork 0, state 0]
  | .later => links (ends + 1)

def ofPattern (d : Direction) : Pattern → Standing → Layout
  | empty, st => andThen (state 0) (afterOption 0 st)
  | literal cs, st =>
    andThen (times (Encoding.textBytes cs).length (state 0)) (afterOption 0 st)
  | chars s, st => andThen (ofSet d s) (afterOption 0 st)
  | assertion _, st => andThen (state 0) (afterOption 0 st)
  | group _ p, st =>
    let l := ofPattern d p .first
    let ends := (endsInFork d p).toNat
    match d with
    | .forward => ofList [state 0, l, links ends, state 0, afterOption 0 st]
    | .backward => andThen l (afterOption ends st)
  | seq p q, st =>
    let (l, m) := (ofPattern d p .first, ofPattern d q .first)
    match d with
    | .forward =>
      ofList [l, links (endsInFork d p).toNat, m, afterOption (endsInFork d q).toNat st]
    | .backward =>
      ofList [m, links (endsInFork d q).toNat, l, afterOption (endsInFork d p).toNat st]
  | Pattern.times p least most lazy, st =>
    let l := ofPattern d p .first
    let ends := (endsInFork d p).toNat
    let turns := match most with
      | none => unbounded l ends (takesText p) least
      | some most => bounded l ends least most
    andThen turns (afterOption (endsInFork d (Pattern.times p least most lazy)).toNat st)
  | alt p q, st =>
    match if st = .first then words? (alt p q) else none with
    | some words => wordChoice d words
    | none =>
      let l := ofPattern d p .first
      let ends := (endsInFork d p).toNat
      match st with
      | .first => ofList [l, links (ends + 1), ofPattern d q .second]
      | st => ofList [l, afterOption ends st, ofPattern d q .later]

/-! ### Searching

A match may begin anywhere, unless the pattern says that it stands at the end of the text from which
the search starts. -/

/-- Whether every match begins at the start of the text. -/
def opensText : Pattern → Bool
  | assertion a => a = .textStart
  | group _ p => opensText p
  | seq p q => opensText p || (isPoint p && opensText q)
  | alt p q => opensText p && opensText q
  | Pattern.times p least _ _ => least != 0 && opensText p
  | _ => false

/-- Whether every match ends at the end of the text. -/
def closesText : Pattern → Bool
  | assertion a => a = .textEnd
  | group _ p => closesText p
  | seq p q => closesText q || (isPoint q && closesText p)
  | alt p q => closesText p && closesText q
  | Pattern.times p least _ _ => least != 0 && closesText p
  | _ => false

/-- What stands in front of a search: any bytes, unless matches stand at an end of the text. -/
def beforeMatch (atEnd : Bool) : Layout :=
  if atEnd then state 0 else ofList [fork 2, state 0, state 1]

/-- The layout that searches a text for a pattern. Only from the front does the whole match count as
a group. -/
def ofSearch (d : Direction) (p : Pattern) : Layout :=
  match d with
  | .forward =>
    ofList [beforeMatch (opensText p), ofPattern d (group 0 p) .first, state 0]
  | .backward =>
    ofList [beforeMatch (closesText p), ofPattern d p .first, links (endsInFork d p).toNat, state 0]

end Layout
end Pattern
end FeatureFlags
