import FeatureFlags.Context.Redaction
import FeatureFlags.Flag
import FeatureFlags.Reason

/-!
# Events

An event reports for analysis that a flag was evaluated as a prerequisite, with the context
redacted. How events are made is a matter of policy (`EventPolicy`): the date that they carry, what
is private in all contexts, and whether the reason goes with every event. Without that the reason
goes with an event only if the evaluation belongs to an experiment (`Flag.isExperiment`), and then
the event is tracked as well.
-/

namespace FeatureFlags

structure Event where
  kind : String
  /-- milliseconds since the start of 1970 -/
  creationDate : Int64
  key : String
  version : Nat
  context : Json
  value : Json
  variation : Option Nat
  default : Json
  /-- the key of the flag that the flag is a prerequisite of -/
  prerequisiteOf : Option String
  reason : Option Reason
  trackEvents : Bool
  debugEventsUntilDate : Option Int64

structure EventPolicy where
  withReasons : Bool
  /-- the attributes that are private in contexts of every kind -/
  privateAttributes : List String
  allAttributesPrivate : Bool
  now : Int64
deriving Inhabited

/-- Whether an evaluation belongs to an experiment: an experiment served the value, or the rule or
fallthrough that served it tracks all evaluations. -/
def Flag.isExperiment (f : Flag) (r : Reason) : Bool :=
  r.inExperiment ||
    match r.kind with
    | .fallthrough => f.trackEventsFallthrough
    | .ruleMatch index _ => (f.rules[index]?).any Rule.trackEvents
    | _ => false

def EventPolicy.event (policy : EventPolicy) (f : Flag) (c : Context) (d : Detail) (default : Json)
    (prerequisiteOf : Option Flag) : Event :=
  let experiment := f.isExperiment d.reason
  { kind := "feature"
    creationDate := policy.now
    key := f.key
    version := f.version
    context := c.redacted policy.privateAttributes policy.allAttributesPrivate
    value := d.value
    variation := d.variationIndex
    default
    prerequisiteOf := prerequisiteOf.map Flag.key
    reason := if policy.withReasons || experiment then some d.reason else none
    trackEvents := f.trackEvents || experiment
    debugEventsUntilDate := f.debugEventsUntilDate }

namespace Event

def toJson (e : Event) : Json :=
  .object ([("kind", .string e.kind), ("creationDate", .ofInt e.creationDate.toInt),
      ("key", .string e.key), ("version", .ofInt e.version), ("context", e.context),
      ("value", e.value)] ++
    Json.memberIfSome "variation" (e.variation.map fun i => Json.ofInt i) ++
    [("default", e.default)] ++
    Json.memberIfSome "prereqOf" (Json.ofText? e.prerequisiteOf) ++
    Json.memberIfSome "reason" (e.reason.map Reason.toJson) ++
    Json.memberIfTrue "trackEvents" e.trackEvents ++
    Json.memberIfSome "debugEventsUntilDate" (Json.ofInt64? e.debugEventsUntilDate))

def memberNames : List String :=
  ["kind", "creationDate", "key", "version", "context", "value", "variation", "default", "prereqOf",
    "reason", "trackEvents", "debugEventsUntilDate"]

def decode : Decoder Event := fun d => do
  let slot ← Decoder.record memberNames d
  return {
    kind := ← (slot "kind").required Decoder.text
    creationDate := ← (slot "creationDate").required Decoder.int64
    key := ← (slot "key").required Decoder.text
    version := ← (slot "version").required Decoder.nat
    context := ← (slot "context").required Decoder.json
    value := ← (slot "value").required Decoder.json
    variation := ← (slot "variation").maybe Decoder.nat
    default := ← (slot "default").required Decoder.json
    prerequisiteOf := ← (slot "prereqOf").maybe Decoder.text
    reason := ← (slot "reason").maybe Reason.decode
    trackEvents := ← (slot "trackEvents").orElse false Decoder.bool
    debugEventsUntilDate := ← (slot "debugEventsUntilDate").maybe Decoder.int64 }

end Event
end FeatureFlags
