import FeatureFlags.Json.Record
import FeatureFlags.Operator
import FeatureFlags.Rollout

/-!
# Clauses

A clause is a condition on a context. It holds if the attribute that `reference` addresses, in the
part of the kind `contextKind`, stands in the relation of the operator to one of the values;
`negate` turns the answer round. For the segment operator the values are keys of segments, and the
attribute is not used, so it may be missing.

A document has to name the operator. Everything else has a default: no attribute, no values, the
default kind, not negated.
-/

namespace FeatureFlags

structure Clause where
  contextKind : Option String
  reference : Option Reference
  op : Operator
  values : List Json
  negate : Bool

/-- The operator that a document names. Any text names one. -/
def Operator.decode : Decoder Operator := fun d => (Decoder.text d).map Operator.ofName

namespace Clause

def toJson (c : Clause) : Json :=
  .object (Json.memberIfSome "contextKind" (Json.ofText? c.contextKind) ++
    Json.memberIfSome "attribute" (Json.ofReference? c.reference) ++
    [("op", .string c.op.name), ("values", .array c.values), ("negate", .bool c.negate)])

def decode : Decoder Clause := fun d => do
  let slot ← Decoder.record ["contextKind", "attribute", "op", "values", "negate"] d
  return {
    contextKind := ← (slot "contextKind").maybe Decoder.text
    reference := ← (slot "attribute").maybe Decoder.reference
    op := ← (slot "op").required Operator.decode
    values := ← (slot "values").orElse [] (Decoder.list Decoder.json)
    negate := ← (slot "negate").orElse false Decoder.bool }

end Clause
end FeatureFlags
