import FeatureFlags.Json.Value
import FeatureFlags.Pattern.Reader
import FeatureFlags.Pattern.Search
import FeatureFlags.Timestamp
import FeatureFlags.Version

/-!
# Clause operators

An operator compares a value of a context with a value that a clause lists. An operand of the wrong
type, or one that cannot be read, makes every comparison false. Numbers are compared by the exact
values of their binary64 numbers, times by milliseconds, versions by their precedence.

Any name names an operator; one that is not known never holds (`Operator.unknown`). The operator for
segments never holds between values either, since no comparison of values decides whether a context
belongs to a segment.
-/

namespace FeatureFlags

inductive Operator where
  | isIn
  | endsWith
  | startsWith
  | hasMatch
  | contains
  | lessThan
  | lessThanOrEqual
  | greaterThan
  | greaterThanOrEqual
  | before
  | after
  | semVerEqual
  | semVerLessThan
  | semVerGreaterThan
  /-- the context belongs to a segment; no comparison of values decides that -/
  | segmentMatch
  | unknown
deriving DecidableEq, Repr

namespace Operator

/-! ### Names -/

def ofName (name : String) : Operator :=
  match name with
  | "in" => isIn
  | "endsWith" => endsWith
  | "startsWith" => startsWith
  | "matches" => hasMatch
  | "contains" => contains
  | "lessThan" => lessThan
  | "lessThanOrEqual" => lessThanOrEqual
  | "greaterThan" => greaterThan
  | "greaterThanOrEqual" => greaterThanOrEqual
  | "before" => before
  | "after" => after
  | "semVerEqual" => semVerEqual
  | "semVerLessThan" => semVerLessThan
  | "semVerGreaterThan" => semVerGreaterThan
  | "segmentMatch" => segmentMatch
  | _ => unknown

def name : Operator → String
  | isIn => "in"
  | endsWith => "endsWith"
  | startsWith => "startsWith"
  | hasMatch => "matches"
  | contains => "contains"
  | lessThan => "lessThan"
  | lessThanOrEqual => "lessThanOrEqual"
  | greaterThan => "greaterThan"
  | greaterThanOrEqual => "greaterThanOrEqual"
  | before => "before"
  | after => "after"
  | semVerEqual => "semVerEqual"
  | semVerLessThan => "semVerLessThan"
  | semVerGreaterThan => "semVerGreaterThan"
  | segmentMatch => "segmentMatch"
  | unknown => "unknown"

/-- An operator is known by its name. -/
@[simp] theorem ofName_name (op : Operator) : ofName op.name = op := by
  cases op <;> decide +kernel

/-! ### Comparisons by type

Each comparison reads both operands in its own way, and is false if one of them cannot be read so.
-/

/-- Whether two values are the same text, truth value or number. -/
def sameScalar : Json → Json → Bool
  | .string s, .string t => s == t
  | .bool a, .bool b => a == b
  | .number m, .number n => m.toRat == n.toRat
  | _, _ => false

/-- Whether `part` occurs in a text. -/
def occursIn (part : List Char) : List Char → Bool
  | [] => part.isEmpty
  | c :: cs => part.isPrefixOf (c :: cs) || occursIn part cs

def onTexts (compare : String → String → Bool) : Json → Json → Bool
  | .string s, .string t => compare s t
  | _, _ => false

def onNumbers (compare : Rat → Rat → Bool) : Json → Json → Bool
  | .number m, .number n => compare m.toRat n.toRat
  | _, _ => false

/-- Milliseconds since the start of 1970: a number, or a timestamp. -/
def time? : Json → Option Rat
  | .number n => some n.toRat
  | .string s => (Timestamp.ofString? s).map fun t => (t.toMillis : Rat)
  | _ => none

def onTimes (compare : Rat → Rat → Bool) (a b : Json) : Bool :=
  match time? a, time? b with
  | some s, some t => compare s t
  | _, _ => false

def onVersions (result : Ordering) (s t : String) : Bool :=
  match Version.ofPadded? s, Version.ofPadded? t with
  | some v, some w => v.compare w == result
  | _, _ => false

/-! ### Application

The value of the clause is read first, once for all values of the context. -/

/-- A value of a clause as an operator reads it. A pattern is read once for all the values of a
context that it is held against. -/
inductive Operand where
  | value (b : Json)
  /-- the automaton of a pattern; none for a text that is no pattern -/
  | pattern (m : Option Automaton)

def operand (op : Operator) (b : Json) : Operand :=
  match op, b with
  | hasMatch, .string written => .pattern ((Pattern.ofString? written).map .ofPattern)
  | _, b => .value b

def holds (op : Operator) (a : Json) : Operand → Bool
  | .pattern m =>
    match a, m with
    | .string text, some m => m.accepts text
    | _, _ => false
  | .value b =>
    match op with
    | isIn => sameScalar a b
    | endsWith => onTexts (fun s t => t.toList.isSuffixOf s.toList) a b
    | startsWith => onTexts (fun s t => t.toList.isPrefixOf s.toList) a b
    | contains => onTexts (fun s t => occursIn t.toList s.toList) a b
    | lessThan => onNumbers (fun m n => m < n) a b
    | lessThanOrEqual => onNumbers (fun m n => m ≤ n) a b
    | greaterThan => onNumbers (fun m n => m > n) a b
    | greaterThanOrEqual => onNumbers (fun m n => m ≥ n) a b
    | before => onTimes (fun s t => s < t) a b
    | after => onTimes (fun s t => s > t) a b
    | semVerEqual => onTexts (onVersions .eq) a b
    | semVerLessThan => onTexts (onVersions .lt) a b
    | semVerGreaterThan => onTexts (onVersions .gt) a b
    | hasMatch => false
    | segmentMatch => false
    | unknown => false

/-- Whether the operator holds between a value of the context and a value of the clause. -/
def apply (op : Operator) (a b : Json) : Bool := op.holds a (op.operand b)

end Operator
end FeatureFlags
