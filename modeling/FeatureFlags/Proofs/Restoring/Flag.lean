import FeatureFlags.Flag
import FeatureFlags.Proofs.Restoring.Record

/-! # Restoring flags

Flags and their parts are restored from what they are encoded as, if their weights are finite and
their values are values that a text can denote (`IsWritable`). A rule writes what it serves among
its own members and finds it there again.

Each part has a table of its members, in the order in which they are written (`fields`). That the
table is what the encoder writes is said once (`toJson_eq`); restoring then goes through the members
one by one, by the lemma on the kind of slot that each of them is read from. -/

namespace FeatureFlags

open Decoder Decoder.Slot
open Json (present)

/-! ## What a rule serves

A weight that is not finite has no number, and this is the only way in which a share is lost. -/

theorem RolloutKind.restores (shared : Bool) (kind : RolloutKind) :
    Restores (RolloutKind.decode shared) (fun kind => .string kind.name) kind := by
  cases kind <;> rfl

namespace Share

def IsWritable (s : Share) : Prop := s.weight.isFinite

instance (s : Share) : Decidable s.IsWritable :=
  inferInstanceAs (Decidable (s.weight.isFinite = true))

def fields (s : Share) : Entries (Option Json) :=
  [("variation", some (.ofInt s.variation.toInt)), ("weight", some (.ofFloat s.weight)),
    ("untracked", some (.bool s.untracked))]

theorem toJson_eq (s : Share) : s.toJson = .object (present s.fields) := rfl

theorem restores {s : Share} (h : s.IsWritable) : Restores decode toJson s := by
  rw [Restores, toJson_eq]
  refine bind_some (record_present rfl (by decide)) ?_
  refine bind_some (required_ofValue? (restores_int64 s.variation)) ?_
  refine bind_some (orElse_ofValue? (restores_float h)) ?_
  refine bind_some (orElse_ofValue? (restores_bool s.untracked)) ?_
  rfl

/-- No member is repeated. -/
theorem toJson_distinct (s : Share) : s.toJson.Distinct := by
  rw [toJson_eq]
  refine Json.distinct_present (by simp [fields, Entries.names]) ?_
  simp only [fields, List.forall_mem_cons]
  exact ⟨Json.distinct_some (.number _), Json.distinct_some (Json.distinct_ofFloat s.weight),
    Json.distinct_some (.bool _), List.forall_mem_nil _⟩

end Share

namespace Rollout

def IsWritable (r : Rollout) : Prop := ∀ s ∈ r.shares, s.IsWritable

instance (r : Rollout) : Decidable r.IsWritable :=
  inferInstanceAs (Decidable (∀ s ∈ r.shares, s.IsWritable))

def fields (r : Rollout) : Entries (Option Json) :=
  [("kind", some (.string r.kind.name)), ("contextKind", Json.ofText? r.contextKind),
    ("bucketBy", Json.ofReference? r.bucketBy), ("seed", Json.ofInt64? r.seed),
    ("variations", some (.array (r.shares.map Share.toJson)))]

theorem toJson_eq (r : Rollout) : r.toJson = .object (present r.fields) := by
  simp [toJson, fields, Json.present_cons]

theorem restores {r : Rollout} (h : r.IsWritable) (shared : Bool) :
    Restores (decode shared) toJson r := by
  rw [Restores, toJson_eq]
  refine bind_some (record_present rfl (by decide)) ?_
  refine bind_some (orElse_ofValue? (RolloutKind.restores shared r.kind)) ?_
  refine bind_some (maybe_ofValue? rfl fun kind _ => restores_text kind) ?_
  refine bind_some (maybe_ofValue? rfl fun reference _ => restores_reference reference) ?_
  refine bind_some (maybe_ofValue? rfl fun seed _ => restores_int64 seed) ?_
  refine bind_some (orElse_ofValue? (restores_list fun s hs => Share.restores (h s hs))) ?_
  rfl

/-- No member is repeated. -/
theorem toJson_distinct (r : Rollout) : r.toJson.Distinct := by
  have hshares : (Json.array (r.shares.map Share.toJson)).Distinct := by
    refine .array fun v hv => ?_
    obtain ⟨s, -, rfl⟩ := List.mem_map.mp hv
    exact s.toJson_distinct
  rw [toJson_eq]
  refine Json.distinct_present (by simp [fields, Entries.names]) ?_
  simp only [fields, List.forall_mem_cons]
  exact ⟨Json.distinct_some (.string _), Json.distinct_ofText? _, Json.distinct_ofReference? _,
    Json.distinct_ofInt64? _, Json.distinct_some hshares, List.forall_mem_nil _⟩

end Rollout

namespace Serving

def IsWritable (s : Serving) : Prop := ∀ r ∈ s.rollout, r.IsWritable

def fields (s : Serving) : Entries (Option Json) :=
  [("variation", Json.ofInt64? s.variation), ("rollout", s.rollout.map Rollout.toJson)]

theorem members_eq (s : Serving) : s.members = present s.fields := by
  simp [members, fields, Json.present_cons]

theorem fields_distinct (s : Serving) : ∀ field ∈ s.fields, ∀ v ∈ field.2, v.Distinct := by
  simp only [fields, List.forall_mem_cons]
  exact ⟨Json.distinct_ofInt64? _, Json.distinct_map Rollout.toJson_distinct _,
    List.forall_mem_nil _⟩

/-- What is served is found wherever its two members stand. -/
theorem ofSlots_fields {s : Serving} (h : s.IsWritable) (shared : Bool) :
    ofSlots shared (.ofTable s.fields) = some s := by
  refine bind_some (maybe_ofValue? rfl fun variation _ => restores_int64 variation) ?_
  refine bind_some (maybe_ofValue? rfl fun r hr => Rollout.restores (h r hr) shared) ?_
  rfl

theorem restores {s : Serving} (h : s.IsWritable) : Restores decode toJson s := by
  rw [Restores, toJson, members_eq]
  exact bind_some (record_present rfl (by decide)) (ofSlots_fields h false)

end Serving

/-! ## Clauses and rules

Two decoders share the members of a rule: one takes out its own, and the one for what it serves is
handed the rest. -/

theorem Operator.restores (op : Operator) :
    Restores Operator.decode (fun op => .string op.name) op :=
  congrArg some (Operator.ofName_name op)

namespace Clause

def IsWritable (c : Clause) : Prop := ∀ v ∈ c.values, v.Distinct

def fields (c : Clause) : Entries (Option Json) :=
  [("contextKind", Json.ofText? c.contextKind), ("attribute", Json.ofReference? c.reference),
    ("op", some (.string c.op.name)), ("values", some (.array c.values)),
    ("negate", some (.bool c.negate))]

theorem toJson_eq (c : Clause) : c.toJson = .object (present c.fields) := by
  simp [toJson, fields, Json.present_cons]

theorem restores {c : Clause} (h : c.IsWritable) : Restores decode toJson c := by
  rw [Restores, toJson_eq]
  refine bind_some (record_present rfl (by decide)) ?_
  refine bind_some (maybe_ofValue? rfl fun kind _ => restores_text kind) ?_
  refine bind_some (maybe_ofValue? rfl fun reference _ => restores_reference reference) ?_
  refine bind_some (required_ofValue? (Operator.restores c.op)) ?_
  refine bind_some (orElse_ofValue? (restores_values h)) ?_
  refine bind_some (orElse_ofValue? (restores_bool c.negate)) ?_
  rfl

end Clause

namespace Rule

structure IsWritable (r : Rule) : Prop where
  clauses : ∀ c ∈ r.clauses, c.IsWritable
  serving : r.serving.IsWritable

def fields (r : Rule) : Entries (Option Json) :=
  [("id", Json.ofText? r.id), ("clauses", some (.array (r.clauses.map Clause.toJson)))] ++
    r.serving.fields ++ [("trackEvents", some (.bool r.trackEvents))]

theorem toJson_eq (r : Rule) : r.toJson = .object (present r.fields) := by
  simp [toJson, fields, Serving.members_eq, Serving.fields, Json.present_cons]

theorem restores {r : Rule} (h : r.IsWritable) : Restores decode toJson r := by
  have hnodup : (Entries.names r.fields).Nodup := by simp [fields, Serving.fields, Entries.names]
  -- What is left without the rule's own members is the table of what it serves.
  have hothers : r.fields.filter (fun field => !(["id", "clauses", "trackEvents"].contains field.1))
      = r.serving.fields := rfl
  have hshared : (Entries.names r.serving.fields).Nodup := by simp [Serving.fields, Entries.names]
  rw [Restores, toJson_eq]
  refine bind_some (openRecord_present hnodup (hothers ▸ r.serving.fields_distinct)) ?_
  rw [hothers]
  refine bind_some (sharedRecord_present hshared Serving.memberNames) ?_
  refine bind_some (maybe_ofValue? rfl fun id _ => restores_text id) ?_
  refine bind_some (orElse_ofValue? (restores_list fun c hc => Clause.restores (h.clauses c hc))) ?_
  refine bind_some (Serving.ofSlots_fields h.serving true) ?_
  refine bind_some (orElse_ofValue? (restores_bool r.trackEvents)) ?_
  rfl

end Rule

/-! ## Flags

A flag that leaves members out is restored with the defaults of these members. -/

namespace Prerequisite

def fields (p : Prerequisite) : Entries (Option Json) :=
  [("key", some (.string p.key)), ("variation", some (.ofInt p.variation.toInt))]

theorem toJson_eq (p : Prerequisite) : p.toJson = .object (present p.fields) := rfl

theorem restores (p : Prerequisite) : Restores decode toJson p := by
  rw [Restores, toJson_eq]
  refine bind_some (record_present rfl (by decide)) ?_
  refine bind_some (required_ofValue? (restores_text p.key)) ?_
  refine bind_some (required_ofValue? (restores_int64 p.variation)) ?_
  rfl

end Prerequisite

namespace Target

def fields (t : Target) : Entries (Option Json) :=
  [("contextKind", Json.ofText? t.contextKind), ("values", some (.ofTexts t.values)),
    ("variation", some (.ofInt t.variation.toInt))]

theorem toJson_eq (t : Target) : t.toJson = .object (present t.fields) := by
  simp [toJson, fields, Json.present_cons]

theorem restores (t : Target) : Restores decode toJson t := by
  rw [Restores, toJson_eq]
  refine bind_some (record_present rfl (by decide)) ?_
  refine bind_some (maybe_ofValue? rfl fun kind _ => restores_text kind) ?_
  refine bind_some (orElse_ofValue? (restores_texts t.values)) ?_
  refine bind_some (required_ofValue? (restores_int64 t.variation)) ?_
  rfl

end Target

namespace Flag

structure IsWritable (f : Flag) : Prop where
  variations : ∀ v ∈ f.variations, v.Distinct
  fallthrough : f.fallthrough.IsWritable
  rules : ∀ r ∈ f.rules, r.IsWritable

def fields (f : Flag) : Entries (Option Json) :=
  [("key", some (.string f.key)), ("version", some (.ofInt f.version)), ("on", some (.bool f.on)),
    ("variations", some (.array f.variations)), ("offVariation", Json.ofInt64? f.offVariation),
    ("fallthrough", some f.fallthrough.toJson),
    ("targets", some (.array (f.targets.map Target.toJson))),
    ("contextTargets", some (.array (f.contextTargets.map Target.toJson))),
    ("prerequisites", some (.array (f.prerequisites.map Prerequisite.toJson))),
    ("rules", some (.array (f.rules.map Rule.toJson))), ("salt", some (.string f.salt)),
    ("trackEvents", some (.bool f.trackEvents)),
    ("trackEventsFallthrough", some (.bool f.trackEventsFallthrough)),
    ("debugEventsUntilDate", Json.ofInt64? f.debugEventsUntilDate)]

theorem toJson_eq (f : Flag) : f.toJson = .object (present f.fields) := by
  simp [toJson, fields, Json.present_cons]

theorem restores {f : Flag} (h : f.IsWritable) : Restores decode toJson f := by
  rw [Restores, toJson_eq]
  refine bind_some (record_present rfl (by decide)) ?_
  refine bind_some (required_ofValue? (restores_text f.key)) ?_
  refine bind_some (orElse_ofValue? (restores_nat f.version)) ?_
  refine bind_some (orElse_ofValue? (restores_bool f.on)) ?_
  refine bind_some (orElse_ofValue? (restores_values h.variations)) ?_
  refine bind_some (maybe_ofValue? rfl fun index _ => restores_int64 index) ?_
  refine bind_some (orElse_ofValue? (Serving.restores h.fallthrough)) ?_
  refine bind_some (orElse_ofValue? (restores_list fun t _ => Target.restores t)) ?_
  refine bind_some (orElse_ofValue? (restores_list fun t _ => Target.restores t)) ?_
  refine bind_some (orElse_ofValue? (restores_list fun p _ => Prerequisite.restores p)) ?_
  refine bind_some (orElse_ofValue? (restores_list fun r hr => Rule.restores (h.rules r hr))) ?_
  refine bind_some (orElse_ofValue? (restores_text f.salt)) ?_
  refine bind_some (orElse_ofValue? (restores_bool f.trackEvents)) ?_
  refine bind_some (orElse_ofValue? (restores_bool f.trackEventsFallthrough)) ?_
  refine bind_some (maybe_ofValue? rfl fun date _ => restores_int64 date) ?_
  rfl

end Flag
end FeatureFlags
