import FeatureFlags.Pattern.Bracket
import FeatureFlags.Pattern.FixedTexts
import FeatureFlags.Pattern.Footprint
import FeatureFlags.Unicode.Addition

/-!
# Reading patterns

`Pattern.ofString?` reads the written form of a pattern; a text that is no pattern gives `none`.

The reader walks over the text with a stack of the groups under way. Options such as `(?i)` hold up
to the end of their group. Each step takes at least one character, so the length of the text bounds
the number of steps.

Two things besides its form make a text no pattern: parts that nest deeper than `maxNesting`, and
automata that would become too large.
-/

namespace FeatureFlags
namespace Pattern

/-! ### Pieces

A piece remembers how deep parts nest in it. Options that stand by themselves are a piece as well,
one that matches the empty text. -/

/-- A finished part of a pattern. -/
structure Piece where
  pattern : Pattern
  /-- how deep parts nest in it -/
  height : Nat
  /-- whether it only sets options, and so cannot be repeated -/
  isOptions : Bool

/-- A character without the character database has to be one of ASCII if it is written as a byte. -/
def charPattern? (o : Options) (c : Char) (byte : Bool) : Option Pattern :=
  if !o.unicode && byte && 128 ≤ c.toNat then none
  else if o.ignoreCase then some (ofSet (foldCase o (.single c)))
  else some (literal [c])

def atomPattern? (o : Options) : Atom → Option Pattern
  | .char c byte => charPattern? o c byte
  | .set s => some (ofSet s)
  | .assertion a => some (.assertion a)

/-- The point: any character but a line end. -/
def dotPattern? (o : Options) : Option Pattern :=
  if !o.unicode then none
  else if o.dotMatchesNewline then some (chars .any)
  else if o.anyLineEnd then some (chars (CharSet.complement (.ofChars ['\n', '\r'])))
  else some (chars (CharSet.complement (.single '\n')))

def startAssertion (o : Options) : Assertion :=
  if o.multiLine then if o.anyLineEnd then .anyLineStart else .lineStart else .textStart

def endAssertion (o : Options) : Assertion :=
  if o.multiLine then if o.anyLineEnd then .anyLineEnd else .lineEnd else .textEnd

/-- A piece that nothing nests in. -/
def leaf (p : Pattern) : Piece := ⟨p, 0, false⟩

def maxHeight (ps : List Piece) : Nat := ps.foldl (fun h p => max h p.height) 0

/-- Pieces in a row, given last first. -/
def rowPiece (ps : List Piece) : Piece :=
  match ps with
  | [] => leaf .empty
  | [p] => p
  | _ => ⟨sequence (ps.reverse.map (·.pattern)), maxHeight ps + 1, false⟩

/-- A choice between pieces, given last first. -/
def choicePiece (ps : List Piece) : Piece :=
  match ps with
  | [p] => p
  | _ => ⟨choice (ps.reverse.map (·.pattern)), maxHeight ps + 1, false⟩

/-! ### Repetitions -/

/-- A repeated piece; options and nothing cannot be repeated. -/
def repeated? (p : Piece) (least : Nat) (most : Option Nat) (lazy : Bool) : Option Piece :=
  if p.isOptions then none
  else some ⟨repetition p.pattern least most lazy, p.height + 1, false⟩

/-- The numbers in the braces of a repetition, behind the opening one. -/
def counts? (o : Options) (cs : List Char) : Option (Nat × Option Nat × List Char) := do
  let (least, cs) ← number? o (skip o cs)
  match cs with
  | '}' :: rest => return (least, some least, rest)
  | ',' :: rest =>
    match skip o rest with
    | '}' :: rest => return (least, none, rest)
    | rest =>
      let (most, rest) ← number? o rest
      guard (least ≤ most)
      match rest with
      | '}' :: rest => return (least, some most, rest)
      | _ => none
  | _ => none

/-- Whether a repetition prefers fewer turns, and what follows: a question mark behind it makes it
prefer the opposite of what options say. -/
def lazyMark (o : Options) : List Char → Bool × List Char
  | '?' :: cs => (!o.lazyFirst, cs)
  | cs => (o.lazyFirst, cs)

/-! ### Groups

Parentheses that open with a question mark do not count, unless a name follows. A name may occur
only once. -/

/-- Whether a character may stand in the name of a group. -/
def isNameChar (isFirst : Bool) (c : Char) : Bool :=
  c == '_' || Unicode.isAlphabetic c.toNat ||
    (!isFirst && (c == '.' || c == '[' || c == ']' || Unicode.isNumber c.toNat))

def groupName? (cs : List Char) : Option (List Char × List Char) :=
  let name := cs.takeWhile (· != '>')
  match name, cs.dropWhile (· != '>') with
  | first :: rest, '>' :: cs =>
    if isNameChar true first && rest.all (isNameChar false) then some (name, cs) else none
  | _, _ => none

/-- The parts of a group that are finished: the choices, and the pieces of the choice under way,
both last first. -/
structure Level where
  choices : List Piece
  pieces : List Piece

namespace Level

def empty : Level := ⟨[], []⟩

def push (l : Level) (p : Piece) : Level := { l with pieces := p :: l.pieces }

def finish (l : Level) : Piece := choicePiece (rowPiece l.pieces :: l.choices)

end Level

/-- A group under way. -/
structure Outer where
  /-- what stands in front of it -/
  level : Level
  options : Options
  /-- its number, if it counts -/
  index : Option Nat

/-- What has been read so far. -/
structure Progress where
  options : Options
  groups : Nat
  names : List (List Char)
  level : Level
  outer : List Outer

namespace Progress

def start : Progress := ⟨.initial, 0, [], .empty, []⟩

def push (p : Progress) (piece : Piece) : Progress := { p with level := p.level.push piece }

/-- Start a group that does not count, with the options given. -/
def openPlain (p : Progress) (o : Options) : Progress :=
  { p with options := o, level := .empty, outer := ⟨p.level, p.options, none⟩ :: p.outer }

/-- Start a group that counts. -/
def openGroup (p : Progress) : Progress :=
  { p with
    groups := p.groups + 1
    level := .empty
    outer := ⟨p.level, p.options, some (p.groups + 1)⟩ :: p.outer }

def closeGroup? (p : Progress) : Option Progress :=
  match p.outer with
  | around :: outer =>
    let inner := p.level.finish
    let pattern := match around.index with
      | some n => group n inner.pattern
      | none => inner.pattern
    some { p with
      options := around.options
      level := around.level.push ⟨pattern, inner.height + 1, false⟩
      outer := outer }
  | [] => none

/-- Replace the last piece by its repetition, and drop the mark behind it. -/
def repeat? (p : Progress) (least : Nat) (most : Option Nat) (cs : List Char) :
    Option (Progress × List Char) :=
  match p.level.pieces with
  | piece :: pieces => do
    let (lazy, cs) := lazyMark p.options cs
    let r ← repeated? piece least most lazy
    return ({ p with level := { p.level with pieces := r :: pieces } }, cs)
  | [] => none

/-- What follows an opening parenthesis. -/
def group? (p : Progress) (cs : List Char) : Option (Progress × List Char) :=
  let named := fun cs => do
    let (name, rest) ← groupName? cs
    if p.names.contains name then none
    else some ({ p.openGroup with names := name :: p.names }, rest)
  match skip p.options cs with
  | '?' :: 'P' :: '<' :: cs => named cs
  | '?' :: '<' :: '=' :: _ => none
  | '?' :: '<' :: '!' :: _ => none
  | '?' :: '<' :: cs => named cs
  | '?' :: cs =>
    match p.options.read? [] true cs with
    | some (o, seen, ')', rest) =>
      if seen.isEmpty then none
      else some ({ p with options := o, level := p.level.push ⟨.empty, 0, true⟩ }, rest)
    | some (o, _, _, rest) => some (p.openPlain o, rest)
    | none => none
  | cs => some (p.openGroup, cs)

/-- One step of reading: a piece, a repetition, or the start or end of a group. -/
def step? (p : Progress) : List Char → Option (Progress × List Char)
  | [] => none
  | '(' :: cs => p.group? cs
  | ')' :: cs => do return (← p.closeGroup?, cs)
  | '|' :: cs =>
    some ({ p with level := ⟨rowPiece p.level.pieces :: p.level.choices, []⟩ }, cs)
  | '[' :: cs => do
    let (s, rest) ← bracketSet? p.options cs
    return (p.push ⟨ofSet s.set, s.height, false⟩, rest)
  | '?' :: cs => p.repeat? 0 (some 1) cs
  | '*' :: cs => p.repeat? 0 none cs
  | '+' :: cs => p.repeat? 1 none cs
  | '{' :: cs => do
    let (least, most, rest) ← counts? p.options cs
    p.repeat? least most (skip p.options rest)
  | '.' :: cs => do return (p.push (leaf (← dotPattern? p.options)), cs)
  | '^' :: cs => some (p.push (leaf (.assertion (startAssertion p.options))), cs)
  | '$' :: cs => some (p.push (leaf (.assertion (endAssertion p.options))), cs)
  | '\\' :: cs => do
    let (atom, rest) ← escape? p.options cs
    return (p.push (leaf (← atomPattern? p.options atom)), rest)
  | c :: cs => do return (p.push (leaf (← charPattern? p.options c false)), cs)

def run? (p : Progress) : Nat → List Char → Option Progress
  | 0, _ => none
  | fuel + 1, cs =>
    match skip p.options cs with
    | [] => some p
    | cs => do
      let (p, rest) ← p.step? cs
      run? p fuel rest

end Progress

/-- How deep the parts of a pattern may nest. -/
def maxNesting : Nat := 250

/-- The pattern that a text writes. One that matches just a few texts is a choice between them; any
other has to be small. -/
def ofString? (text : String) : Option Pattern := do
  let cs := text.toList
  let p ← Progress.start.run? (cs.length + 1) cs
  guard p.outer.isEmpty
  let piece := p.level.finish
  guard (piece.height ≤ maxNesting)
  match fixedTexts? piece.pattern with
  | some texts => return ofChoices (texts.map literal)
  | none => if isSmall piece.pattern then some piece.pattern else none

end Pattern
end FeatureFlags
