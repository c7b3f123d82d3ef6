import FeatureFlags.Segment
import FeatureFlags.Proofs.Restoring.Flag

/-! # Restoring segments

Segments are restored like flags, from tables of their members. A rule of a segment may have a
weight, which has to be finite, as the weights of a rollout have to be. -/

namespace FeatureFlags

open Decoder Decoder.Slot
open Json (present)

namespace SegmentTarget

def fields (t : SegmentTarget) : Entries (Option Json) :=
  [("contextKind", Json.ofText? t.contextKind), ("values", some (.ofTexts t.values))]

theorem toJson_eq (t : SegmentTarget) : t.toJson = .object (present t.fields) := by
  simp [toJson, fields, Json.present_cons]

theorem restores (t : SegmentTarget) : Restores decode toJson t := by
  rw [Restores, toJson_eq]
  refine bind_some (record_present rfl (by decide)) ?_
  refine bind_some (maybe_ofValue? rfl fun kind _ => restores_text kind) ?_
  refine bind_some (orElse_ofValue? (restores_texts t.values)) ?_
  rfl

end SegmentTarget

namespace SegmentRule

structure IsWritable (r : SegmentRule) : Prop where
  clauses : ∀ c ∈ r.clauses, c.IsWritable
  weight : ∀ w ∈ r.weight, w.isFinite

def fields (r : SegmentRule) : Entries (Option Json) :=
  [("id", Json.ofText? r.id), ("clauses", some (.array (r.clauses.map Clause.toJson))),
    ("weight", r.weight.map Json.ofFloat), ("bucketBy", Json.ofReference? r.bucketBy),
    ("rolloutContextKind", Json.ofText? r.rolloutContextKind)]

theorem toJson_eq (r : SegmentRule) : r.toJson = .object (present r.fields) := by
  simp [toJson, fields, Json.present_cons]

theorem restores {r : SegmentRule} (h : r.IsWritable) : Restores decode toJson r := by
  rw [Restores, toJson_eq]
  refine bind_some (record_present rfl (by decide)) ?_
  refine bind_some (maybe_ofValue? rfl fun id _ => restores_text id) ?_
  refine bind_some (orElse_ofValue? (restores_list fun c hc => Clause.restores (h.clauses c hc))) ?_
  refine bind_some (maybe_ofValue? rfl fun w hw => restores_float (h.weight w hw)) ?_
  refine bind_some (maybe_ofValue? rfl fun reference _ => restores_reference reference) ?_
  refine bind_some (maybe_ofValue? rfl fun kind _ => restores_text kind) ?_
  rfl

end SegmentRule

namespace Segment

def IsWritable (s : Segment) : Prop := ∀ r ∈ s.rules, r.IsWritable

def fields (s : Segment) : Entries (Option Json) :=
  [("key", some (.string s.key)), ("version", some (.ofInt s.version)),
    ("salt", some (.string s.salt)), ("included", some (.ofTexts s.included)),
    ("excluded", some (.ofTexts s.excluded)),
    ("includedContexts", some (.array (s.includedContexts.map SegmentTarget.toJson))),
    ("excludedContexts", some (.array (s.excludedContexts.map SegmentTarget.toJson))),
    ("rules", some (.array (s.rules.map SegmentRule.toJson))),
    ("unbounded", some (.bool s.unbounded)), ("generation", Json.ofInt64? s.generation),
    ("unboundedContextKind", Json.ofText? s.unboundedContextKind)]

theorem toJson_eq (s : Segment) : s.toJson = .object (present s.fields) := by
  simp [toJson, fields, Json.present_cons]

theorem restores {s : Segment} (h : s.IsWritable) : Restores decode toJson s := by
  rw [Restores, toJson_eq]
  refine bind_some (record_present rfl (by decide)) ?_
  refine bind_some (required_ofValue? (restores_text s.key)) ?_
  refine bind_some (orElse_ofValue? (restores_nat s.version)) ?_
  refine bind_some (orElse_ofValue? (restores_text s.salt)) ?_
  refine bind_some (orElse_ofValue? (restores_texts s.included)) ?_
  refine bind_some (orElse_ofValue? (restores_texts s.excluded)) ?_
  refine bind_some (orElse_ofValue? (restores_list fun t _ => SegmentTarget.restores t)) ?_
  refine bind_some (orElse_ofValue? (restores_list fun t _ => SegmentTarget.restores t)) ?_
  refine bind_some (orElse_ofValue? (restores_list fun r hr => SegmentRule.restores (h r hr))) ?_
  refine bind_some (orElse_ofValue? (restores_bool s.unbounded)) ?_
  refine bind_some (maybe_ofValue? rfl fun generation _ => restores_int64 generation) ?_
  refine bind_some (maybe_ofValue? rfl fun kind _ => restores_text kind) ?_
  rfl

end Segment
end FeatureFlags
