import FeatureFlags.Json.Record

/-!
# Reasons and details

A `Detail` is what an evaluation comes to: a value, the place of the variation it is, and the reason
why. The reason has a kind, says whether an experiment served the value, and carries the health of
the big segment store if the evaluation has learnt it.

A kind of reason is written as a name and, beside it, the members that belong to the kind. They
stand among the other members of the reason, so a reason is a record whose members are shared out.
The kind may also be given by its place among the kinds.

Of several healths the worst one counts (`BigSegmentsStatus.merge`).
-/

namespace FeatureFlags

/-- The health of the big segment store during an evaluation. The later status counts for more. -/
inductive BigSegmentsStatus where
  | healthy
  /-- perhaps out of date -/
  | stale
  | storeError
  /-- there is no store, or a segment has no generation -/
  | notConfigured
deriving DecidableEq, Repr

inductive ErrorKind where
  | userNotSpecified
  | flagNotFound
  | malformedFlag
deriving DecidableEq, Repr

inductive ReasonKind where
  | off
  | fallthrough
  | targetMatch
  | ruleMatch (index : Nat) (id : Option String)
  /-- another flag was not found, was off, or served another variation -/
  | prerequisiteFailed (key : String)
  | error (kind : ErrorKind)
deriving DecidableEq, Repr

structure Reason where
  kind : ReasonKind
  /-- an experiment served the value, and it is to be tracked -/
  inExperiment : Bool
  bigSegmentsStatus : Option BigSegmentsStatus
deriving DecidableEq, Repr

structure Detail where
  /-- null if no variation is served -/
  value : Json
  variationIndex : Option Nat
  reason : Reason

namespace BigSegmentsStatus

def rank : BigSegmentsStatus → Nat
  | healthy => 0
  | stale => 1
  | storeError => 2
  | notConfigured => 3

/-- Of two statuses, the one of the higher rank. -/
def merge (s t : BigSegmentsStatus) : BigSegmentsStatus := if s.rank ≤ t.rank then t else s

def name : BigSegmentsStatus → String
  | healthy => "HEALTHY"
  | stale => "STALE"
  | storeError => "STORE_ERROR"
  | notConfigured => "NOT_CONFIGURED"

def ofName? (name : String) : Option BigSegmentsStatus :=
  match name with
  | "HEALTHY" => some healthy
  | "STALE" => some stale
  | "STORE_ERROR" => some storeError
  | "NOT_CONFIGURED" => some notConfigured
  | _ => none

def decode : Decoder BigSegmentsStatus := fun d => do ofName? (← Decoder.constant false d)

end BigSegmentsStatus

namespace ErrorKind

def name : ErrorKind → String
  | userNotSpecified => "USER_NOT_SPECIFIED"
  | flagNotFound => "FLAG_NOT_FOUND"
  | malformedFlag => "MALFORMED_FLAG"

def ofName? (name : String) : Option ErrorKind :=
  match name with
  | "USER_NOT_SPECIFIED" => some userNotSpecified
  | "FLAG_NOT_FOUND" => some flagNotFound
  | "MALFORMED_FLAG" => some malformedFlag
  | _ => none

/-- The error kind that a document names; `shared` says whether it stands among members that are
shared out. -/
def decode (shared : Bool) : Decoder ErrorKind := fun d => do ofName? (← Decoder.constant shared d)

end ErrorKind

namespace ReasonKind

def names : List String :=
  ["OFF", "FALLTHROUGH", "TARGET_MATCH", "RULE_MATCH", "PREREQUISITE_FAILED", "ERROR"]

def name : ReasonKind → String
  | off => "OFF"
  | fallthrough => "FALLTHROUGH"
  | targetMatch => "TARGET_MATCH"
  | ruleMatch _ _ => "RULE_MATCH"
  | prerequisiteFailed _ => "PREREQUISITE_FAILED"
  | error _ => "ERROR"

def members : ReasonKind → List (String × Json)
  | ruleMatch index id =>
    ("ruleIndex", .ofInt index) :: Json.memberIfSome "ruleId" (id.map Json.string)
  | prerequisiteFailed key => [("prerequisiteKey", .string key)]
  | error kind => [("errorKind", .string kind.name)]
  | _ => []

/-- The name of a kind: written out, or as its place among the names. -/
def decodeName : Decoder String
  | .string s => some s
  | .number (.int n) => if 0 ≤ n then names[n.toNat]? else none
  | _ => none

/-- The kind that is described by members shared with others. -/
def ofMembers? (members : Entries Document) : Option ReasonKind := do
  let slot ← Decoder.sharedRecord ["kind"] members
  match ← (slot "kind").required decodeName with
  | "OFF" => return off
  | "FALLTHROUGH" => return fallthrough
  | "TARGET_MATCH" => return targetMatch
  | "RULE_MATCH" =>
    let slot ← Decoder.sharedRecord ["ruleIndex", "ruleId"] members
    let index ← (slot "ruleIndex").required Decoder.nat
    return ruleMatch index (← (slot "ruleId").maybe Decoder.text)
  | "PREREQUISITE_FAILED" =>
    let slot ← Decoder.sharedRecord ["prerequisiteKey"] members
    return prerequisiteFailed (← (slot "prerequisiteKey").required Decoder.text)
  | "ERROR" =>
    let slot ← Decoder.sharedRecord ["errorKind"] members
    return error (← (slot "errorKind").required (ErrorKind.decode true))
  | _ => none

end ReasonKind

namespace Reason

def plain (kind : ReasonKind) : Reason := ⟨kind, false, none⟩

def tracked (kind : ReasonKind) (inExperiment : Bool) : Reason := ⟨kind, inExperiment, none⟩

def isError (r : Reason) : Bool :=
  match r.kind with
  | .error _ => true
  | _ => false

def toJson (r : Reason) : Json :=
  .object (("kind", .string r.kind.name) :: r.kind.members ++
    Json.memberIfTrue "inExperiment" r.inExperiment ++
    Json.memberIfSome "bigSegmentsStatus" (r.bigSegmentsStatus.map fun s => Json.string s.name))

/-- The reason that a document is. The kind and its members stand among the others. -/
def decode : Decoder Reason := fun d => do
  let (slot, others) ← Decoder.openRecord ["inExperiment", "bigSegmentsStatus"] d
  return {
    kind := ← ReasonKind.ofMembers? others
    inExperiment := ← (slot "inExperiment").orElse false Decoder.bool
    bigSegmentsStatus := ← (slot "bigSegmentsStatus").maybe BigSegmentsStatus.decode }

end Reason

namespace Detail

def ofError (kind : ErrorKind) : Detail := ⟨.null, none, .plain (.error kind)⟩

def isError (d : Detail) : Bool := d.reason.isError

def toJson (d : Detail) : Json :=
  .object [("value", d.value),
    ("variationIndex", (d.variationIndex.map fun i => Json.ofInt i).getD .null),
    ("reason", d.reason.toJson)]

def decode : Decoder Detail := fun d => do
  let slot ← Decoder.record ["value", "variationIndex", "reason"] d
  return {
    value := ← (slot "value").required Decoder.json
    variationIndex := ← (slot "variationIndex").maybeListed Decoder.nat
    reason := ← (slot "reason").required Reason.decode }

end Detail
end FeatureFlags
