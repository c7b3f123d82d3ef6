import FeatureFlags.Attribute.Reference
import FeatureFlags.Json.Record

/-!
# Rollouts

What a rule serves is a fixed variation or a rollout, which spreads contexts over variations by
their shares. A share counts in units of 1/100000.

A rollout may be an experiment. Its evaluations are tracked for analysis, apart from shares that are
marked as untracked, and its contexts are always bucketed by the key.
-/

namespace FeatureFlags

inductive RolloutKind where
  | rollout
  | experiment
deriving DecidableEq, Repr

structure Share where
  variation : Int64
  weight : Float
  /-- not tracked, although an experiment serves it -/
  untracked : Bool

structure Rollout where
  kind : RolloutKind
  contextKind : Option String
  /-- the attribute to bucket by, the key if left out -/
  bucketBy : Option Reference
  seed : Option Int64
  shares : List Share

/-- A fixed variation or a rollout. If both are there, the fixed variation counts. -/
structure Serving where
  variation : Option Int64
  rollout : Option Rollout

/-! ### Encoding

What is served (`Serving`) has two members, the variation and the rollout. They stand in an object
of their own or among the members of a rule, and then the rollout is one of the parts that the
members are shared out to. -/

namespace Decoder

def reference : Decoder Reference := fun d => (text d).map Reference.mk

end Decoder

def Json.ofText? (s : Option String) : Option Json := s.map Json.string

def Json.ofInt64? (n : Option Int64) : Option Json := n.map fun n => Json.ofInt n.toInt

def Json.ofReference? (r : Option Reference) : Option Json := r.map fun r => Json.string r.text

namespace RolloutKind

def name : RolloutKind → String
  | rollout => "rollout"
  | experiment => "experiment"

def ofName? (name : String) : Option RolloutKind :=
  match name with
  | "rollout" => some rollout
  | "experiment" => some experiment
  | _ => none

def decode (shared : Bool) : Decoder RolloutKind := fun d => do
  ofName? (← Decoder.constant shared d)

end RolloutKind

namespace Share

def toJson (s : Share) : Json :=
  .object [("variation", .ofInt s.variation.toInt), ("weight", .ofFloat s.weight),
    ("untracked", .bool s.untracked)]

def decode : Decoder Share := fun d => do
  let slot ← Decoder.record ["variation", "weight", "untracked"] d
  return {
    variation := ← (slot "variation").required Decoder.int64
    weight := ← (slot "weight").orElse 0 Decoder.float
    untracked := ← (slot "untracked").orElse false Decoder.bool }

end Share

namespace Rollout

def toJson (r : Rollout) : Json :=
  .object (("kind", .string r.kind.name) ::
    Json.memberIfSome "contextKind" (Json.ofText? r.contextKind) ++
    Json.memberIfSome "bucketBy" (Json.ofReference? r.bucketBy) ++
    Json.memberIfSome "seed" (Json.ofInt64? r.seed) ++
    [("variations", .array (r.shares.map Share.toJson))])

/-- The rollout that a document is; `shared` says whether it stands among members that are shared
out. -/
def decode (shared : Bool) : Decoder Rollout := fun d => do
  let slot ← Decoder.record ["kind", "contextKind", "bucketBy", "seed", "variations"] d
  return {
    kind := ← (slot "kind").orElse .rollout (RolloutKind.decode shared)
    contextKind := ← (slot "contextKind").maybe Decoder.text
    bucketBy := ← (slot "bucketBy").maybe Decoder.reference
    seed := ← (slot "seed").maybe Decoder.int64
    shares := ← (slot "variations").orElse [] (Decoder.list Share.decode) }

end Rollout

namespace Serving

def nothing : Serving := ⟨none, none⟩

def fixed (variation : Int64) : Serving := ⟨some variation, none⟩

def spread (rollout : Rollout) : Serving := ⟨none, some rollout⟩

def memberNames : List String := ["variation", "rollout"]

/-- The members, to stand in an object of their own or among others. -/
def members (s : Serving) : List (String × Json) :=
  Json.memberIfSome "variation" (Json.ofInt64? s.variation) ++
    Json.memberIfSome "rollout" (s.rollout.map Rollout.toJson)

def toJson (s : Serving) : Json := .object s.members

def ofSlots (shared : Bool) (slot : String → Decoder.Slot) : Option Serving := do
  return {
    variation := ← (slot "variation").maybe Decoder.int64
    rollout := ← (slot "rollout").maybe (Rollout.decode shared) }

def decode : Decoder Serving := fun d => do ofSlots false (← Decoder.record memberNames d)

/-- What a value by itself serves: an integer is a fixed variation, anything else a rollout. -/
def decodeBare : Decoder Serving := fun d =>
  match Decoder.int64 d with
  | some variation => some (fixed variation)
  | none => (Rollout.decode false d).map spread

end Serving
end FeatureFlags
