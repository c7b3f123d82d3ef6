import FeatureFlags.Text.Digit

/-!
# Timestamps

An internet date and time: `2024-01-31T12:30:00.5+02:00`. Date and time stand apart by a `T` of
either case or one space, and the offset from universal time is a `Z` of either case or signed hours
and minutes. A second may be the sixtieth, which counts as one second past the fifty-ninth. A
timestamp denotes a count of milliseconds since the start of 1970; what is finer is cut off.

Nothing may stand in front of a timestamp or behind it, and every part has its fixed number of
digits, apart from the fraction of the second.
-/

namespace FeatureFlags

structure Timestamp where
  year : Nat
  month : Nat
  day : Nat
  hour : Nat
  minute : Nat
  second : Nat
  /-- whole milliseconds of the fraction -/
  millisecond : Nat
  /-- minutes ahead of universal time -/
  offset : Int
deriving DecidableEq, Repr

namespace Timestamp

/-! ### The calendar

The days of a year are counted from its start, and years from the year 0, with a leap year in every
fourth, but not in every hundredth, but in every four hundredth. -/

/-- Whether a year has a 29 February. -/
def isLeapYear (year : Nat) : Bool := year % 4 = 0 && (year % 100 ≠ 0 || year % 400 = 0)

/-- The days of a month; a number that is no month has none. -/
def daysInMonth (year month : Nat) : Nat :=
  match month with
  | 2 => if isLeapYear year then 29 else 28
  | 4 | 6 | 9 | 11 => 30
  | 1 | 3 | 5 | 7 | 8 | 10 | 12 => 31
  | _ => 0

/-- The days from the start of year 0 to the start of a year. -/
def daysBeforeYear (year : Nat) : Nat :=
  365 * year + (year + 3) / 4 - (year + 99) / 100 + (year + 399) / 400

/-- The days of the first months of a year, `count` of them. -/
def daysInMonths (year : Nat) : Nat → Nat
  | 0 => 0
  | count + 1 => daysInMonths year count + daysInMonth year (count + 1)

/-- The days from the start of 1970 to a date. -/
def dayNumber (t : Timestamp) : Int :=
  (daysBeforeYear t.year + daysInMonths t.year (t.month - 1) + (t.day - 1) : Nat)
    - daysBeforeYear 1970

def toMillis (t : Timestamp) : Int :=
  (((t.dayNumber * 24 + t.hour) * 60 + t.minute - t.offset) * 60 + t.second) * 1000 + t.millisecond

/-- Whether the parts name a day, a time of day and an offset of less than a day. -/
def isValid (t : Timestamp) : Bool :=
  1 ≤ t.day && t.day ≤ daysInMonth t.year t.month && t.hour < 24 && t.minute < 60 && t.second ≤ 60
    && t.offset.natAbs < 24 * 60

/-! ### Reading -/

/-- Exactly `count` digits, and what follows them. -/
def digits? : Nat → Nat → List Char → Option (Nat × List Char)
  | 0, value, cs => some (value, cs)
  | count + 1, value, c :: cs => do digits? count (10 * value + (← Digit.decimal? c)) cs
  | _ + 1, _, [] => none

def char? (c : Char) : List Char → Option (List Char)
  | d :: cs => if d = c then some cs else none
  | [] => none

def separator? : List Char → Option (List Char)
  | c :: cs => if c = 'T' ∨ c = 't' ∨ c = ' ' then some cs else none
  | [] => none

/-- The milliseconds of an optional fraction: a point and at least one digit, of which three count.
-/
def fraction? : List Char → Option (Nat × List Char)
  | '.' :: cs =>
    let (ds, rest) := Digit.takeDecimals cs
    if ds.isEmpty then none else some (Digit.number ((ds ++ [0, 0]).take 3), rest)
  | cs => some (0, cs)

/-- The sign of an offset. The minus sign may be the hyphen or the sign of mathematics. -/
def sign? (c : Char) : Option Int :=
  if c = '+' then some 1 else if c = '-' ∨ c = '\u2212' then some (-1) else none

def offset? : List Char → Option (Int × List Char)
  | [] => none
  | c :: cs =>
    if c = 'Z' ∨ c = 'z' then some (0, cs)
    else do
      let sign ← sign? c
      let (hours, cs) ← digits? 2 0 cs
      let (minutes, cs) ← digits? 2 0 (← char? ':' cs)
      guard (minutes < 60)
      return (sign * (60 * hours + minutes), cs)

/-- The timestamp that a text is. -/
def ofString? (text : String) : Option Timestamp := do
  let (year, cs) ← digits? 4 0 text.toList
  let (month, cs) ← digits? 2 0 (← char? '-' cs)
  let (day, cs) ← digits? 2 0 (← char? '-' cs)
  let (hour, cs) ← digits? 2 0 (← separator? cs)
  let (minute, cs) ← digits? 2 0 (← char? ':' cs)
  let (second, cs) ← digits? 2 0 (← char? ':' cs)
  let (millisecond, cs) ← fraction? cs
  let (offset, cs) ← offset? cs
  let t : Timestamp := ⟨year, month, day, hour, minute, second, millisecond, offset⟩
  guard (cs.isEmpty && t.isValid)
  return t

end Timestamp
end FeatureFlags
