import FeatureFlags.Text.Digit

/-!
# The tokens of a JSON text

`Token.scan` runs over a text once, character by character, with a `Mode` that says what the
character stands in: between tokens, in a word (a literal name or a numeral), or in quoted text. A
word ends at the first character that cannot belong to it; whether it means anything is decided when
it is read.

Quoted text takes escapes, among them 16-bit units that have to pair up as surrogates; text whose
units do not pair up is well-formed but unreadable. Control characters have to be escaped.
-/

namespace FeatureFlags
namespace Json

inductive Token where
  | beginArray
  | endArray
  | beginObject
  | endObject
  | comma
  | colon
  /-- quoted text; `none` if it is unreadable -/
  | text (s : Option String)
  /-- a run of letters, digits, signs and points -/
  | word (cs : List Char)
deriving Repr, DecidableEq

namespace Token

structure Quoted where
  /-- the characters so far, last first -/
  chars : List Char
  /-- a leading surrogate that still lacks its partner -/
  pending : Option Nat
  /-- whether all units so far denote characters -/
  readable : Bool
deriving Repr, DecidableEq

namespace Quoted

def empty : Quoted := ⟨[], none, true⟩

def push (q : Quoted) (c : Char) : Quoted :=
  ⟨c :: q.chars, none, q.readable && q.pending.isNone⟩

/-- A 16-bit unit follows. -/
def pushUnit (q : Quoted) (u : Nat) : Quoted :=
  match q.pending with
  | some lead =>
    if 0xDC00 ≤ u ∧ u < 0xE000 then
      { q with
        chars := Char.ofNat (0x10000 + (lead - 0xD800) * 0x400 + (u - 0xDC00)) :: q.chars
        pending := none }
    else { q with readable := false }
  | none =>
    if 0xD800 ≤ u ∧ u < 0xDC00 then { q with pending := some u }
    else if 0xDC00 ≤ u ∧ u < 0xE000 then { q with readable := false }
    else q.push (Char.ofNat u)

def value? (q : Quoted) : Option String :=
  if q.readable && q.pending.isNone then some (String.ofList q.chars.reverse) else none

end Quoted

/-- What the next character stands in. -/
inductive Mode where
  | between
  /-- the word so far, last character first -/
  | word (cs : List Char)
  | quoted (q : Quoted)
  /-- after a backslash -/
  | escape (q : Quoted)
  /-- in the four hexadecimal digits of a unit: how many are missing, and the value so far -/
  | unit (q : Quoted) (missing : Nat) (value : Nat)

/-- The characters of literal names and numerals. -/
def isWordChar (c : Char) : Bool := c.isAlphanum || c == '-' || c == '+' || c == '.'

/-- The blanks that may stand between tokens. -/
def isBlank (c : Char) : Bool := c == ' ' || c == '\n' || c == '\t' || c == '\r'

def punctuation? : Char → Option Token
  | '[' => some beginArray
  | ']' => some endArray
  | '{' => some beginObject
  | '}' => some endObject
  | ',' => some comma
  | ':' => some colon
  | _ => none

def unescape? : Char → Option Char
  | '"' => some '"'
  | '\\' => some '\\'
  | '/' => some '/'
  | 'b' => some '\x08'
  | 'f' => some '\x0c'
  | 'n' => some '\n'
  | 'r' => some '\r'
  | 't' => some '\t'
  | _ => none

/-- One character between tokens; `done` holds the tokens so far, last first. -/
def start (done : List Token) (c : Char) : Option (Mode × List Token) :=
  if isBlank c then some (.between, done)
  else if c == '"' then some (.quoted .empty, done)
  else if isWordChar c then some (.word [c], done)
  else (punctuation? c).map fun t => (.between, t :: done)

/-- One character in any mode. -/
def step : Mode × List Token → Char → Option (Mode × List Token)
  | (.between, done), c => start done c
  | (.word cs, done), c =>
    if isWordChar c then some (.word (c :: cs), done) else start (word cs.reverse :: done) c
  | (.quoted q, done), c =>
    if c == '"' then some (.between, text q.value? :: done)
    else if c == '\\' then some (.escape q, done)
    else if c < ' ' then none
    else some (.quoted (q.push c), done)
  | (.escape q, done), c =>
    if c == 'u' then some (.unit q 4 0, done)
    else (unescape? c).map fun e => (.quoted (q.push e), done)
  | (.unit q missing value, done), c =>
    (Digit.hexadecimal? c).map fun d =>
      if missing ≤ 1 then (.quoted (q.pushUnit (16 * value + d)), done)
      else (.unit q (missing - 1) (16 * value + d), done)

/-- The tokens of a text. -/
def scan (cs : List Char) : Option (List Token) := do
  match ← cs.foldlM step (.between, []) with
  | (.between, done) => some done.reverse
  | (.word w, done) => some (word w.reverse :: done).reverse
  | _ => none

end Token
end Json
end FeatureFlags
