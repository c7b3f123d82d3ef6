import FeatureFlags.Flag
import FeatureFlags.Segment

/-!
# Data sets

The flags and segments that an evaluation can look up by key. A data set is read from a document
with one object of flags and one of segments. An entry that does not decode is left out and leaves
the others alone (`Isolated`); only a document of another shape is refused.

Lists of flags and segments are stored under their own keys (`DataSet.ofLists`), and so is what is
inserted later. A document is taken at its word: its entries stand under the names that it gives
them, which are not compared with their keys.
-/

namespace FeatureFlags

/-- A value that was decoded, or the document's value where that failed. -/
inductive Isolated (α : Type) where
  | decoded (a : α)
  | failed (v : Json)

namespace Isolated

variable {α : Type}

def value? : Isolated α → Option α
  | decoded a => some a
  | failed _ => none

/-- Encoded again; what was not decoded stays as it was. -/
def toJson (encode : α → Json) : Isolated α → Json
  | decoded a => encode a
  | failed v => v

/-- Decode without failing; only an unreadable document is refused. -/
def decode (item : Decoder α) : Decoder (Isolated α) := fun d => do
  let v ← d.toJson?
  return match item d with
    | some a => decoded a
    | none => failed v

end Isolated

structure DataSet where
  flags : Entries Flag
  segments : Entries Segment
deriving Inhabited

namespace DataSet

def empty : DataSet := ⟨[], []⟩

/-- Flags and segments under their own keys; of equal keys, the last one counts. -/
def ofLists (flags : List Flag) (segments : List Segment) : DataSet where
  flags := Entries.ofList (flags.map fun f => (f.key, f))
  segments := Entries.ofList (segments.map fun s => (s.key, s))

def keep {α : Type} (es : Entries (Isolated α)) : Entries α :=
  es.filterMap fun e => e.2.value?.map fun a => (e.1, a)

/-- The data set that a document is, each entry under its name in the document. -/
def decode : Decoder DataSet := fun d => do
  let slot ← Decoder.record ["flags", "segments"] d
  let flags ← (slot "flags").orElse [] (Decoder.entries (Isolated.decode Flag.decode))
  let segments ← (slot "segments").orElse [] (Decoder.entries (Isolated.decode Segment.decode))
  return ⟨keep flags, keep segments⟩

def insertFlag (d : DataSet) (f : Flag) : DataSet :=
  { d with flags := Entries.insert f.key f d.flags }

def insertSegment (d : DataSet) (s : Segment) : DataSet :=
  { d with segments := Entries.insert s.key s d.segments }

end DataSet
end FeatureFlags
