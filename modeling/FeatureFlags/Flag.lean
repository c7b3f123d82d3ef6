import FeatureFlags.Clause

/-!
# Flags

A flag has variations, and says which of them a context is served: by prerequisites on other flags,
lists of context keys (`Target`), rules, and a fallthrough. Targets of users stand in a list of
their own; the others name the kind of the contexts that they list.

Variations are told by their place, from zero on (`Flag.variation?`). A place is a signed integer in
a document, so it may lie outside the list on either side.

A document has to name the key of a flag. Members that it leaves out are empty, zero or false, and
the fallthrough serves nothing.
-/

namespace FeatureFlags

/-- Another flag that has to serve a certain variation. -/
structure Prerequisite where
  key : String
  variation : Int64
deriving DecidableEq, Repr

structure Target where
  contextKind : Option String
  values : List String
  variation : Int64
deriving DecidableEq, Repr

/-- What contexts that satisfy all clauses are served. -/
structure Rule where
  id : Option String
  clauses : List Clause
  serving : Serving
  trackEvents : Bool

structure Flag where
  key : String
  version : Nat
  on : Bool
  variations : List Json
  offVariation : Option Int64
  fallthrough : Serving
  /-- lists of keys of users -/
  targets : List Target
  contextTargets : List Target
  prerequisites : List Prerequisite
  rules : List Rule
  salt : String
  trackEvents : Bool
  trackEventsFallthrough : Bool
  debugEventsUntilDate : Option Int64

namespace Prerequisite

def toJson (p : Prerequisite) : Json :=
  .object [("key", .string p.key), ("variation", .ofInt p.variation.toInt)]

def decode : Decoder Prerequisite := fun d => do
  let slot ← Decoder.record ["key", "variation"] d
  return {
    key := ← (slot "key").required Decoder.text
    variation := ← (slot "variation").required Decoder.int64 }

end Prerequisite

namespace Target

def toJson (t : Target) : Json :=
  .object (Json.memberIfSome "contextKind" (Json.ofText? t.contextKind) ++
    [("values", .ofTexts t.values), ("variation", .ofInt t.variation.toInt)])

def decode : Decoder Target := fun d => do
  let slot ← Decoder.record ["contextKind", "values", "variation"] d
  return {
    contextKind := ← (slot "contextKind").maybe Decoder.text
    values := ← (slot "values").orElse [] (Decoder.list Decoder.text)
    variation := ← (slot "variation").required Decoder.int64 }

end Target

namespace Rule

def toJson (r : Rule) : Json :=
  .object (Json.memberIfSome "id" (Json.ofText? r.id) ++
    ("clauses", .array (r.clauses.map Clause.toJson)) :: r.serving.members ++
    [("trackEvents", .bool r.trackEvents)])

/-- The rule that a document is. What it serves stands among its own members. -/
def decode : Decoder Rule := fun d => do
  let (slot, others) ← Decoder.openRecord ["id", "clauses", "trackEvents"] d
  let shared ← Decoder.sharedRecord Serving.memberNames others
  return {
    id := ← (slot "id").maybe Decoder.text
    clauses := ← (slot "clauses").orElse [] (Decoder.list Clause.decode)
    serving := ← Serving.ofSlots true shared
    trackEvents := ← (slot "trackEvents").orElse false Decoder.bool }

end Rule

namespace Flag

/-- The variation of an index, with its place among the variations. -/
def variation? (f : Flag) (index : Int64) : Option (Nat × Json) :=
  if index.toInt < 0 then none
  else (f.variations[index.toInt.toNat]?).map fun v => (index.toInt.toNat, v)

def toJson (f : Flag) : Json :=
  .object ([("key", .string f.key), ("version", .ofInt f.version), ("on", .bool f.on),
      ("variations", .array f.variations)] ++
    Json.memberIfSome "offVariation" (Json.ofInt64? f.offVariation) ++
    [("fallthrough", f.fallthrough.toJson), ("targets", .array (f.targets.map Target.toJson)),
      ("contextTargets", .array (f.contextTargets.map Target.toJson)),
      ("prerequisites", .array (f.prerequisites.map Prerequisite.toJson)),
      ("rules", .array (f.rules.map Rule.toJson)), ("salt", .string f.salt),
      ("trackEvents", .bool f.trackEvents),
      ("trackEventsFallthrough", .bool f.trackEventsFallthrough)] ++
    Json.memberIfSome "debugEventsUntilDate" (Json.ofInt64? f.debugEventsUntilDate))

def memberNames : List String :=
  ["key", "version", "on", "variations", "offVariation", "fallthrough", "targets", "contextTargets",
    "prerequisites", "rules", "salt", "trackEvents", "trackEventsFallthrough",
    "debugEventsUntilDate"]

def decode : Decoder Flag := fun d => do
  let slot ← Decoder.record memberNames d
  return {
    key := ← (slot "key").required Decoder.text
    version := ← (slot "version").orElse 0 Decoder.nat
    on := ← (slot "on").orElse false Decoder.bool
    variations := ← (slot "variations").orElse [] (Decoder.list Decoder.json)
    offVariation := ← (slot "offVariation").maybe Decoder.int64
    fallthrough := ← (slot "fallthrough").orElse .nothing Serving.decode
    targets := ← (slot "targets").orElse [] (Decoder.list Target.decode)
    contextTargets := ← (slot "contextTargets").orElse [] (Decoder.list Target.decode)
    prerequisites := ← (slot "prerequisites").orElse [] (Decoder.list Prerequisite.decode)
    rules := ← (slot "rules").orElse [] (Decoder.list Rule.decode)
    salt := ← (slot "salt").orElse "" Decoder.text
    trackEvents := ← (slot "trackEvents").orElse false Decoder.bool
    trackEventsFallthrough := ← (slot "trackEventsFallthrough").orElse false Decoder.bool
    debugEventsUntilDate := ← (slot "debugEventsUntilDate").maybe Decoder.int64 }

end Flag
end FeatureFlags
