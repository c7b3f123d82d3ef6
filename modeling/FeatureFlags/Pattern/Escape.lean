import FeatureFlags.Pattern.Basic
import FeatureFlags.Pattern.Class
import FeatureFlags.Pattern.Options
import FeatureFlags.Text.Digit
import FeatureFlags.Unicode.Named

/-!
# Escapes in patterns

What follows a backslash (`escape?`): a character by its code point or by a letter, a class of
characters, an assertion, or a character that would mean something else by itself. Between the parts
of an escape options may let blanks and comments stand.

Each reader takes the text from where its part begins and answers what it has read, with the text
that follows. A letter that means nothing makes the whole text no pattern.
-/

namespace FeatureFlags
namespace Pattern

/-! ### Digits and names

The number argument of the readers bounds how many characters they look at; it is the length of the
text where they are used. -/

def scalar? (n : Nat) : Option Char := if n.isValidChar then some (Char.ofNat n) else none

/-- The characters up to `stop`, with skips in between, and what follows `stop`. -/
def takeUntil (o : Options) (stop : Char) : Nat → List Char → Option (List Char × List Char)
  | 0, _ => none
  | fuel + 1, cs =>
    match skip o cs with
    | [] => none
    | c :: cs =>
      if c = stop then some ([], cs)
      else do
        let (taken, rest) ← takeUntil o stop fuel cs
        return (c :: taken, rest)

/-- Hexadecimal digits of a fixed number, with skips in between. -/
def hexDigits? (o : Options) : Nat → Nat → List Char → Option (Nat × List Char)
  | 0, value, cs => some (value, cs)
  | count + 1, value, cs =>
    match skip o cs with
    | c :: cs => do hexDigits? o count (16 * value + (← Digit.hexadecimal? c)) cs
    | [] => none

/-- Digits with skips in between; `taken` are those so far, last first. -/
def takeNumber (o : Options) (taken : List Nat) : Nat → List Char → List Nat × List Char
  | 0, cs => (taken, cs)
  | fuel + 1, cs =>
    match cs with
    | c :: rest =>
      match Digit.decimal? c with
      | some d => takeNumber o (d :: taken) fuel (skip o rest)
      | none => (taken, cs)
    | [] => (taken, [])

/-- A number below 2^32, perhaps with blanks around it, and what follows. -/
def number? (o : Options) (cs : List Char) : Option (Nat × List Char) :=
  let (ds, rest) := takeNumber o [] cs.length (dropBlanks cs)
  let n := Digit.number ds.reverse
  if ds.isEmpty || UInt32.size ≤ n then none else some (n, skip o (dropBlanks rest))

/-! ### Escapes

What an escape gives is an `Atom`, outside brackets and inside them. -/

inductive Atom where
  /-- a character; `byte` if it was written as two hexadecimal digits -/
  | char (c : Char) (byte : Bool)
  | set (s : CharSet)
  | assertion (a : Assertion)

/-- A character by its code point: two, four or eight hexadecimal digits, or any number in braces.
-/
def hexEscape? (o : Options) (count : Nat) (cs : List Char) : Option (Atom × List Char) :=
  match skip o cs with
  | '{' :: cs => do
    let (digits, rest) ← takeUntil o '}' (cs.length + 1) cs
    guard (!digits.isEmpty)
    let values ← digits.mapM Digit.hexadecimal?
    let c ← scalar? (values.foldl (fun n d => 16 * n + d) 0)
    return (.char c false, skip o rest)
  | cs => do
    let (n, rest) ← hexDigits? o count 0 cs
    let c ← scalar? n
    return (.char c (count == 2), skip o rest)

def cutAt (separator : List Char) : List Char → Option (List Char × List Char)
  | [] => none
  | c :: cs =>
    if separator.isPrefixOf (c :: cs) then some ([], (c :: cs).drop separator.length)
    else (cutAt separator cs).map fun (a, b) => (c :: a, b)

/-- The class that the text in the braces of a class of the database names, and whether it is what
the class leaves out: a name, or a property and its value, with `=` or `:` in between or, for what
is left out, `!=`. -/
def namedClass? (name : List Char) : Option (Bool × CharSet) :=
  match cutAt ['!', '='] name with
  | some (property, value) => do return (true, ← Unicode.valueClass? property value)
  | none =>
    match (cutAt [':'] name).or (cutAt ['='] name) with
    | some (property, value) => do return (false, ← Unicode.valueClass? property value)
    | none => do return (false, ← Unicode.class? name)

def foldCase (o : Options) (s : CharSet) : CharSet :=
  if !o.ignoreCase then s else if o.unicode then s.folded else s.foldedAscii

def negate (o : Options) (s : CharSet) : CharSet :=
  if o.unicode then s.complement else s.byteComplement

/-- A set with case variants, and complemented if asked for. Without the character database a set
may only hold characters of ASCII. -/
def finishSet? (o : Options) (negated : Bool) (s : CharSet) : Option CharSet :=
  let s := foldCase o s
  let s := if negated then negate o s else s
  if o.unicode || s.isAscii then some s else none

/-- A class of the character database: one letter, or a name in braces. -/
def databaseEscape? (o : Options) (negated : Bool) (cs : List Char) :
    Option (Atom × List Char) := do
  guard o.unicode
  match skip o cs with
  | '{' :: cs =>
    let (name, rest) ← takeUntil o '}' (cs.length + 1) cs
    let (outside, s) ← namedClass? name
    return (.set (← finishSet? o (negated != outside) s), rest)
  | '\\' :: _ => none
  | c :: cs => return (.set (← finishSet? o negated (← Unicode.class? [c])), skip o cs)
  | [] => none

def letterEscape? (o : Options) (c : Char) : Option Atom :=
  let s := letterClass (!o.unicode) c.toLower
  let s := if c.isUpper then negate o s else s
  if o.unicode || s.isAscii then some (.set s) else none

def isBoundaryNameChar (c : Char) : Bool := c.isAlpha || c == '-'

def boundary? (ascii : Bool) (name : List Char) : Option Assertion :=
  match String.ofList name with
  | "start" => some (.wordStart ascii)
  | "end" => some (.wordEnd ascii)
  | "start-half" => some (.noWordBefore ascii)
  | "end-half" => some (.noWordAfter ascii)
  | _ => none

/-- The letters of a name with skips in between. -/
def takeName (o : Options) : Nat → List Char → List Char × List Char
  | 0, cs => ([], cs)
  | fuel + 1, cs =>
    match cs with
    | c :: rest =>
      if isBoundaryNameChar c then
        let (taken, rest) := takeName o fuel (skip o rest)
        (c :: taken, rest)
      else ([], cs)
    | [] => ([], [])

/-- What follows the letter of a word boundary: perhaps the name of a special one in braces. Braces
that hold no name are a count of repetitions. -/
def boundaryEscape? (o : Options) (cs : List Char) : Option (Atom × List Char) :=
  let ascii := !o.unicode
  match cs with
  | '{' :: rest =>
    match skip o rest with
    | [] => none
    | c :: inner =>
      if isBoundaryNameChar c then
        match takeName o (inner.length + 1) (c :: inner) with
        | (name, '}' :: rest) => (boundary? ascii name).map fun a => (.assertion a, rest)
        | _ => none
      else some (.assertion (.wordBoundary ascii), cs)
  | _ => some (.assertion (.wordBoundary ascii), cs)

def escape? (o : Options) : List Char → Option (Atom × List Char)
  | [] => none
  | c :: cs =>
    let ascii := !o.unicode
    match c with
    | 'x' => hexEscape? o 2 cs
    | 'u' => hexEscape? o 4 cs
    | 'U' => hexEscape? o 8 cs
    | 'p' => databaseEscape? o false cs
    | 'P' => databaseEscape? o true cs
    | 'a' => some (.char '\x07' false, cs)
    | 'f' => some (.char '\x0c' false, cs)
    | 't' => some (.char '\t' false, cs)
    | 'n' => some (.char '\n' false, cs)
    | 'r' => some (.char '\r' false, cs)
    | 'v' => some (.char '\x0b' false, cs)
    | 'A' => some (.assertion .textStart, cs)
    | 'z' => some (.assertion .textEnd, cs)
    | 'b' => boundaryEscape? o cs
    | 'B' => some (.assertion (.noWordBoundary ascii), cs)
    | '<' => some (.assertion (.wordStart ascii), cs)
    | '>' => some (.assertion (.wordEnd ascii), cs)
    | c =>
      if isClassLetter c then (letterEscape? o c).map fun a => (a, cs)
      else if c.toNat < 128 && !c.isAlphanum then some (.char c false, cs)
      else none

end Pattern
end FeatureFlags
