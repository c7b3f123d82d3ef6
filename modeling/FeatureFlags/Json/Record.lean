import FeatureFlags.Json.Document

/-!
# Decoding documents

A decoder takes a document to a value of the domain, or refuses it. Most values are records: an
object with named members, or an array that lists the members in their declared order. A record
refuses a known name that occurs twice and passes over unknown members without reading them.

A record whose members are shared out among several parts (`openRecord`) has to be an object, and
everything in it but its own members has to be readable. The parts then take what is theirs out of
the rest (`sharedRecord`).
-/

namespace FeatureFlags

abbrev Decoder (α : Type) : Type := Document → Option α

namespace Decoder

variable {α : Type}

/-! ### Scalars and lists -/

def text : Decoder String
  | .string s => some s
  | _ => none

def bool : Decoder Bool
  | .bool b => some b
  | _ => none

def int64 : Decoder Int64
  | .number (.int n) =>
    if Binary64.least ≤ n ∧ n ≤ Binary64.greatest then some (Int64.ofInt n) else none
  | _ => none

/-- An integer without sign. No JSON integer is larger than 64 bits. -/
def nat : Decoder Nat
  | .number (.int n) => if 0 ≤ n then some n.toNat else none
  | _ => none

def float : Decoder Float
  | .number n => some n.toFloat
  | _ => none

def json : Decoder Json := Document.toJson?

def list (item : Decoder α) : Decoder (List α)
  | .array ds => ds.mapM item
  | _ => none

/-- The members of an object under their names; none if a name is unreadable. -/
def named? (members : List (Option String × Document)) : Option (Entries Document) :=
  members.mapM fun m => m.1.map fun name => (name, m.2)

/-- A value under each name of an object; of equal names, the last one counts. -/
def entries (item : Decoder α) : Decoder (Entries α)
  | .object members => do
    let pairs ← (← named? members).mapM fun m => (item m.2).map fun v => (m.1, v)
    return Entries.ofList pairs
  | _ => none

/-- The name of a constant: a text, or an object whose only member has that name and is null. Among
members that are shared out, the member may also be an empty object. -/
def constant (shared : Bool) : Decoder String
  | .string s => some s
  | .object [(some name, .null)] => some name
  | .object [(some name, .object [])] => if shared then some name else none
  | _ => none

/-! ### Records

Decoding a record has two steps. First the members are found: each declared name has a `Slot`, which
holds its document or tells why there is none. Then each slot is decoded as the member asks for: it
has to be there, or has a default, or may be null. -/

inductive Slot where
  /-- an object without the member -/
  | missing
  /-- an array that ends before the member -/
  | pastEnd
  | held (d : Document)

namespace Slot

def required (item : Decoder α) : Slot → Option α
  | held d => item d
  | _ => none

def orElse (default : α) (item : Decoder α) : Slot → Option α
  | held d => item d
  | _ => some default

/-- A member that may be missing or null. -/
def maybe (item : Decoder α) : Slot → Option (Option α)
  | held .null => some none
  | held d => (item d).map some
  | _ => some none

/-- A member that may be missing or null, but in an array has to be listed. -/
def maybeListed (item : Decoder α) : Slot → Option (Option α)
  | pastEnd => none
  | slot => maybe item slot

end Slot

def memberSlot (members : Entries Document) (name : String) : Slot :=
  match Entries.find? name members with
  | some d => .held d
  | none => .missing

def itemSlot (names : List String) (items : List Document) (name : String) : Slot :=
  match Entries.find? name (names.zip items) with
  | some d => .held d
  | none => .pastEnd

def eachOnce (names : List String) (members : Entries Document) : Bool :=
  names.all fun name => (Entries.names members).count name ≤ 1

/-- The slots of a record with the given members, in their declared order. -/
def record (names : List String) : Decoder (String → Slot)
  | .object members => do
    let members ← named? members
    guard (eachOnce names members)
    return memberSlot members
  | .array items => do
    guard (items.length ≤ names.length)
    return itemSlot names items
  | _ => none

/-- The members of an object whose members are shared out: its own ones, each at most once, and all
others, which must be readable. -/
def openRecord (own : List String) : Decoder ((String → Slot) × Entries Document)
  | .object members => do
    let members ← named? members
    guard (eachOnce own members)
    let others := members.filter fun m => !own.contains m.1
    guard (others.all fun m => m.2.readable)
    return (memberSlot members, others)
  | _ => none

/-- The slots of a record among members that are shared out. -/
def sharedRecord (names : List String) (members : Entries Document) : Option (String → Slot) :=
  if eachOnce names members then some (memberSlot members) else none

end Decoder

/-! ### Encoding members

A record is written as an object. Some members are left out where they would only repeat what is
assumed without them. -/

namespace Json

/-- A member that is left out if there is no value. -/
def memberIfSome (name : String) (v : Option Json) : List (String × Json) :=
  match v with
  | some v => [(name, v)]
  | none => []

/-- A truth value that is left out if it is false. -/
def memberIfTrue (name : String) (b : Bool) : List (String × Json) :=
  if b then [(name, bool true)] else []

end Json
end FeatureFlags
