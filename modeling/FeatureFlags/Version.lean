import FeatureFlags.Text.Digit
import FeatureFlags.Text.Split

/-!
# Semantic versions

Three numbers, an optional pre-release behind a hyphen and an optional build behind a plus sign, as
in `1.12.0-rc.1+linux`. Numbers fit 64 bits and have no leading zeros; identifiers are separated by
points, and none is empty. The build takes no part in the order and is dropped.

`Version.ofPadded?` also reads versions with only one or two numbers; the missing ones are zero.
They are filled in in the text, in front of whatever follows the numbers that are there.
-/

namespace FeatureFlags

inductive Identifier where
  | numeric (n : Nat)
  /-- with at least one character that is no digit -/
  | word (s : String)
deriving DecidableEq, Repr

/-- A version without its build; a release has no pre-release identifiers. -/
structure Version where
  major : Nat
  minor : Nat
  patch : Nat
  preRelease : List Identifier
deriving DecidableEq, Repr

/-- Numbers by value, words by their characters, numbers before words. -/
def Identifier.compare : Identifier → Identifier → Ordering
  | numeric m, numeric n => Ord.compare m n
  | numeric _, word _ => .lt
  | word _, numeric _ => .gt
  | word s, word t => Ord.compare s t

namespace Version

/-! ### Order

The numbers decide first, in their order, and then the pre-release. -/

/-- Identifier by identifier; if one list ends first, it is the lesser. -/
def compareIdentifiers : List Identifier → List Identifier → Ordering
  | [], [] => .eq
  | [], _ :: _ => .lt
  | _ :: _, [] => .gt
  | a :: as, b :: bs => (a.compare b).then (compareIdentifiers as bs)

/-- A pre-release comes before its release. -/
def comparePreReleases : List Identifier → List Identifier → Ordering
  | [], [] => .eq
  | [], _ :: _ => .gt
  | _ :: _, [] => .lt
  | as, bs => compareIdentifiers as bs

def compare (v w : Version) : Ordering :=
  (Ord.compare v.major w.major).then <| (Ord.compare v.minor w.minor).then <|
    (Ord.compare v.patch w.patch).then (comparePreReleases v.preRelease w.preRelease)

/-! ### Reading -/

/-- The number that stands in front, and what follows it. -/
def number? (cs : List Char) : Option (Nat × List Char) :=
  let (ds, rest) := Digit.takeDecimals cs
  if ds.isEmpty || Digit.hasLeadingZero ds || UInt64.size ≤ Digit.number ds then none
  else some (Digit.number ds, rest)

def point? : List Char → Option (List Char)
  | '.' :: cs => some cs
  | _ => none

/-- The characters of identifiers and the points between them. -/
def isIdentifierChar (c : Char) : Bool := c.isAlphanum || c == '-' || c == '.'

/-- The identifier of a pre-release that a piece of text is. -/
def identifier? (cs : List Char) : Option Identifier :=
  match Digit.takeDecimals cs with
  | ([], []) => none
  | (ds, []) => if Digit.hasLeadingZero ds then none else some (.numeric (Digit.number ds))
  | (_, _ :: _) => some (.word (String.ofList cs))

/-- The pre-release identifiers behind an optional hyphen, and what follows them. -/
def preRelease? : List Char → Option (List Identifier × List Char)
  | '-' :: cs => do
    let ids ← (Text.split '.' (cs.takeWhile isIdentifierChar)).mapM identifier?
    return (ids, cs.dropWhile isIdentifierChar)
  | cs => some ([], cs)

/-- Whether a text is nothing, or a build behind a plus sign. -/
def isBuild : List Char → Bool
  | [] => true
  | '+' :: cs => cs.all isIdentifierChar && (Text.split '.' cs).all fun piece => !piece.isEmpty
  | _ => false

/-- The version that a text with three numbers is. -/
def ofChars? (cs : List Char) : Option Version := do
  let (major, cs) ← number? cs
  let (minor, cs) ← number? (← point? cs)
  let (patch, cs) ← number? (← point? cs)
  let (preRelease, cs) ← preRelease? cs
  guard (isBuild cs)
  return ⟨major, minor, patch, preRelease⟩

/-- A text that starts with one or two numbers, filled up with zeros to three. -/
def pad? (cs : List Char) : Option (List Char) :=
  let isNumberChar := fun c => Digit.isDecimal c || c == '.'
  let parts := Text.split '.' (cs.takeWhile isNumberChar)
  if 3 < parts.length || parts.any List.isEmpty then none
  else
    let zeros := List.replicate (3 - parts.length) ['0']
    some (['.'].intercalate (parts ++ zeros) ++ cs.dropWhile isNumberChar)

/-- The version that a text with one, two or three numbers is. -/
def ofPadded? (text : String) : Option Version :=
  match ofChars? text.toList with
  | some v => some v
  | none => do ofChars? (← pad? text.toList)

end Version
end FeatureFlags
