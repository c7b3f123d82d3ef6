import FeatureFlags.Clause

/-!
# Segments

A segment is a set of contexts: those it lists, less those it excludes, and those that satisfy a
rule. Users are listed by their keys; lists of other contexts name their kind (`SegmentTarget`).

The members of a big segment (`unbounded`) are kept elsewhere, under the segment's key and
generation. What is listed here is not looked at then; the rules still count for contexts that the
kept members say nothing of.
-/

namespace FeatureFlags

structure SegmentTarget where
  contextKind : Option String
  values : List String
deriving DecidableEq, Repr

/-- Contexts that satisfy all clauses, or a share of them. -/
structure SegmentRule where
  id : Option String
  clauses : List Clause
  /-- the share of the contexts in units of 1/100000, all of them if left out -/
  weight : Option Float
  bucketBy : Option Reference
  rolloutContextKind : Option String

structure Segment where
  key : String
  version : Nat
  salt : String
  included : List String
  excluded : List String
  includedContexts : List SegmentTarget
  excludedContexts : List SegmentTarget
  rules : List SegmentRule
  unbounded : Bool
  generation : Option Int64
  unboundedContextKind : Option String

namespace SegmentTarget

def toJson (t : SegmentTarget) : Json :=
  .object (Json.memberIfSome "contextKind" (Json.ofText? t.contextKind) ++
    [("values", .ofTexts t.values)])

def decode : Decoder SegmentTarget := fun d => do
  let slot ← Decoder.record ["contextKind", "values"] d
  return {
    contextKind := ← (slot "contextKind").maybe Decoder.text
    values := ← (slot "values").orElse [] (Decoder.list Decoder.text) }

end SegmentTarget

namespace SegmentRule

def toJson (r : SegmentRule) : Json :=
  .object (Json.memberIfSome "id" (Json.ofText? r.id) ++
    [("clauses", .array (r.clauses.map Clause.toJson))] ++
    Json.memberIfSome "weight" (r.weight.map Json.ofFloat) ++
    Json.memberIfSome "bucketBy" (Json.ofReference? r.bucketBy) ++
    Json.memberIfSome "rolloutContextKind" (Json.ofText? r.rolloutContextKind))

def decode : Decoder SegmentRule := fun d => do
  let slot ← Decoder.record ["id", "clauses", "weight", "bucketBy", "rolloutContextKind"] d
  return {
    id := ← (slot "id").maybe Decoder.text
    clauses := ← (slot "clauses").orElse [] (Decoder.list Clause.decode)
    weight := ← (slot "weight").maybe Decoder.float
    bucketBy := ← (slot "bucketBy").maybe Decoder.reference
    rolloutContextKind := ← (slot "rolloutContextKind").maybe Decoder.text }

end SegmentRule

namespace Segment

def toJson (s : Segment) : Json :=
  .object ([("key", .string s.key), ("version", .ofInt s.version), ("salt", .string s.salt),
      ("included", .ofTexts s.included), ("excluded", .ofTexts s.excluded),
      ("includedContexts", .array (s.includedContexts.map SegmentTarget.toJson)),
      ("excludedContexts", .array (s.excludedContexts.map SegmentTarget.toJson)),
      ("rules", .array (s.rules.map SegmentRule.toJson)), ("unbounded", .bool s.unbounded)] ++
    Json.memberIfSome "generation" (Json.ofInt64? s.generation) ++
    Json.memberIfSome "unboundedContextKind" (Json.ofText? s.unboundedContextKind))

def memberNames : List String :=
  ["key", "version", "salt", "included", "excluded", "includedContexts", "excludedContexts",
    "rules", "unbounded", "generation", "unboundedContextKind"]

def decode : Decoder Segment := fun d => do
  let slot ← Decoder.record memberNames d
  return {
    key := ← (slot "key").required Decoder.text
    version := ← (slot "version").orElse 0 Decoder.nat
    salt := ← (slot "salt").orElse "" Decoder.text
    included := ← (slot "included").orElse [] (Decoder.list Decoder.text)
    excluded := ← (slot "excluded").orElse [] (Decoder.list Decoder.text)
    includedContexts := ← (slot "includedContexts").orElse [] (Decoder.list SegmentTarget.decode)
    excludedContexts := ← (slot "excludedContexts").orElse [] (Decoder.list SegmentTarget.decode)
    rules := ← (slot "rules").orElse [] (Decoder.list SegmentRule.decode)
    unbounded := ← (slot "unbounded").orElse false Decoder.bool
    generation := ← (slot "generation").maybe Decoder.int64
    unboundedContextKind := ← (slot "unboundedContextKind").maybe Decoder.text }

end Segment
end FeatureFlags
