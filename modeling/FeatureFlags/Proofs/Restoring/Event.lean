import FeatureFlags.Event
import FeatureFlags.Proofs.Restoring.Segment

/-! # Restoring reasons, details and events

A reason writes its kind with what belongs to it among its own members. False truth values and
missing values are left out, and come back. `decode_toJson` says of everything that is encoded that
it is restored.

A reason has two members of its own, and all others are those of its kind. Decoding takes its own
members out, whatever the order, and leaves the rest to the kind; the rest names the kind and holds
what it needs (`ReasonKind.ofMembers?_fields`). -/

namespace FeatureFlags

open Decoder Decoder.Slot
open Json (present)

/-! ## Reasons

No kind has a member that the reason has too, so that the members of the kind are the ones that are
left when those of the reason are taken out. -/

theorem BigSegmentsStatus.restores (s : BigSegmentsStatus) :
    Restores BigSegmentsStatus.decode (fun s => .string s.name) s := by
  cases s <;> rfl

theorem ErrorKind.restores (shared : Bool) (kind : ErrorKind) :
    Restores (ErrorKind.decode shared) (fun kind => .string kind.name) kind := by
  cases kind <;> rfl

namespace ReasonKind

def memberFields : ReasonKind → Entries (Option Json)
  | ruleMatch index id => [("ruleIndex", some (.ofInt index)), ("ruleId", id.map Json.string)]
  | prerequisiteFailed key => [("prerequisiteKey", some (.string key))]
  | error kind => [("errorKind", some (.string kind.name))]
  | _ => []

def fields (kind : ReasonKind) : Entries (Option Json) :=
  ("kind", some (.string kind.name)) :: kind.memberFields

theorem members_eq (kind : ReasonKind) : kind.members = present kind.memberFields := by
  cases kind <;> simp [members, memberFields, Json.present_cons]

theorem names_fields_nodup (kind : ReasonKind) : (Entries.names kind.fields).Nodup := by
  cases kind <;> simp [fields, memberFields, Entries.names]

theorem fields_distinct (kind : ReasonKind) : ∀ field ∈ kind.fields, ∀ v ∈ field.2, v.Distinct := by
  refine List.forall_mem_cons.mpr ⟨Json.distinct_some (.string _), ?_⟩
  cases kind
  case ruleMatch index id =>
    simp only [memberFields, List.forall_mem_cons]
    exact ⟨Json.distinct_some (.number _), Json.distinct_map .string id, List.forall_mem_nil _⟩
  case prerequisiteFailed key =>
    exact List.forall_mem_singleton.mpr (Json.distinct_some (.string key))
  case error kind =>
    exact List.forall_mem_singleton.mpr (Json.distinct_some (.string kind.name))
  all_goals exact List.forall_mem_nil _

/-- A kind is told from its own members. -/
theorem ofMembers?_fields (kind : ReasonKind) :
    ofMembers? (documents (present kind.fields)) = some kind := by
  -- The members are read once for the name, and again for what belongs to that name.
  have hslots := sharedRecord_present kind.names_fields_nodup
  refine bind_some (hslots _) ?_
  cases kind
  case ruleMatch index id =>
    refine bind_some rfl ?_
    refine bind_some (hslots _) ?_
    refine bind_some (required_ofValue? (restores_nat index)) ?_
    refine bind_some (maybe_ofValue? rfl fun id _ => restores_text id) ?_
    rfl
  case prerequisiteFailed key =>
    refine bind_some rfl ?_
    refine bind_some (hslots _) ?_
    exact bind_some (required_ofValue? (restores_text key)) rfl
  case error kind =>
    refine bind_some rfl ?_
    refine bind_some (hslots _) ?_
    exact bind_some (required_ofValue? (ErrorKind.restores true kind)) rfl
  all_goals rfl

end ReasonKind

namespace Reason

def fields (r : Reason) : Entries (Option Json) :=
  r.kind.fields ++ [("inExperiment", if r.inExperiment then some (.bool true) else none),
    ("bigSegmentsStatus", r.bigSegmentsStatus.map fun s => Json.string s.name)]

theorem toJson_eq (r : Reason) : r.toJson = .object (present r.fields) := by
  simp [toJson, fields, ReasonKind.fields, ReasonKind.members_eq, Json.present_append,
    Json.present_cons, Json.memberIfTrue_eq]

theorem restores (r : Reason) : Restores decode toJson r := by
  rw [Restores, toJson_eq]
  obtain ⟨kind, inExperiment, status⟩ := r
  have hnodup : (Entries.names (fields ⟨kind, inExperiment, status⟩)).Nodup := by
    cases kind <;> simp [fields, ReasonKind.fields, ReasonKind.memberFields, Entries.names]
  -- What is left without the reason's own members are the members of its kind.
  have hothers : (fields ⟨kind, inExperiment, status⟩).filter
      (fun field => !(["inExperiment", "bigSegmentsStatus"].contains field.1)) = kind.fields := by
    cases kind <;> rfl
  have hexperiment : ofTable (fields ⟨kind, inExperiment, status⟩) "inExperiment"
      = ofValue? (if inExperiment then some (.bool true) else none) := by
    cases kind <;> rfl
  have hstatus : ofTable (fields ⟨kind, inExperiment, status⟩) "bigSegmentsStatus"
      = ofValue? (status.map fun s => Json.string s.name) := by
    cases kind <;> rfl
  refine bind_some (openRecord_present hnodup (hothers ▸ kind.fields_distinct)) ?_
  simp only [hothers, hexperiment, hstatus]
  refine bind_some kind.ofMembers?_fields ?_
  refine bind_some (orElse_ofTrue inExperiment) ?_
  refine bind_some (maybe_ofValue? rfl fun s _ => BigSegmentsStatus.restores s) ?_
  rfl

end Reason

/-! ## Details and events

The values and the context that an event holds are written as they are, so they come back if no
object in them names a member twice. -/

namespace Detail

def fields (d : Detail) : Entries (Option Json) :=
  [("value", some d.value),
    ("variationIndex", some ((d.variationIndex.map fun i : Nat => Json.ofInt i).getD .null)),
    ("reason", some d.reason.toJson)]

theorem toJson_eq (d : Detail) : d.toJson = .object (present d.fields) := by
  obtain ⟨value, _ | index, reason⟩ := d <;> rfl

theorem restores {d : Detail} (h : d.value.Distinct) : Restores decode toJson d := by
  rw [Restores, toJson_eq]
  refine bind_some (record_present rfl (by decide)) ?_
  refine bind_some (required_ofValue? (restores_json h)) ?_
  refine bind_some (maybeListed_ofValue rfl fun i _ => restores_nat i) ?_
  refine bind_some (required_ofValue? (Reason.restores d.reason)) ?_
  rfl

end Detail

namespace Event

structure IsWritable (e : Event) : Prop where
  context : e.context.Distinct
  value : e.value.Distinct
  default : e.default.Distinct

def fields (e : Event) : Entries (Option Json) :=
  [("kind", some (.string e.kind)), ("creationDate", some (.ofInt e.creationDate.toInt)),
    ("key", some (.string e.key)), ("version", some (.ofInt e.version)),
    ("context", some e.context), ("value", some e.value),
    ("variation", e.variation.map fun i : Nat => Json.ofInt i), ("default", some e.default),
    ("prereqOf", Json.ofText? e.prerequisiteOf), ("reason", e.reason.map Reason.toJson),
    ("trackEvents", if e.trackEvents then some (.bool true) else none),
    ("debugEventsUntilDate", Json.ofInt64? e.debugEventsUntilDate)]

theorem toJson_eq (e : Event) : e.toJson = .object (present e.fields) := by
  cases h : e.variation <;>
    simp [toJson, fields, h, Json.present_cons, Json.memberIfTrue_eq]

theorem restores {e : Event} (h : e.IsWritable) : Restores decode toJson e := by
  rw [Restores, toJson_eq]
  refine bind_some (record_present rfl (by decide)) ?_
  refine bind_some (required_ofValue? (restores_text e.kind)) ?_
  refine bind_some (required_ofValue? (restores_int64 e.creationDate)) ?_
  refine bind_some (required_ofValue? (restores_text e.key)) ?_
  refine bind_some (required_ofValue? (restores_nat e.version)) ?_
  refine bind_some (required_ofValue? (restores_json h.context)) ?_
  refine bind_some (required_ofValue? (restores_json h.value)) ?_
  refine bind_some (maybe_ofValue? rfl fun i _ => restores_nat i) ?_
  refine bind_some (required_ofValue? (restores_json h.default)) ?_
  refine bind_some (maybe_ofValue? rfl fun key _ => restores_text key) ?_
  refine bind_some (maybe_ofValue? rfl fun r _ => Reason.restores r) ?_
  refine bind_some (orElse_ofTrue e.trackEvents) ?_
  refine bind_some (maybe_ofValue? rfl fun date _ => restores_int64 date) ?_
  rfl

end Event

/-! ## Everything that is encoded -/

/-- **Decoding undoes encoding.** Flags, segments, reasons, details, events and all parts of them
come back from what they are encoded as, however many of their members are left out. Weights have to
be finite, and no object may name a member twice. -/
theorem decode_toJson :
    (∀ f : Flag, f.IsWritable → Restores Flag.decode Flag.toJson f) ∧
      (∀ s : Segment, s.IsWritable → Restores Segment.decode Segment.toJson s) ∧
      (∀ r : Reason, Restores Reason.decode Reason.toJson r) ∧
      (∀ d : Detail, d.value.Distinct → Restores Detail.decode Detail.toJson d) ∧
      (∀ e : Event, e.IsWritable → Restores Event.decode Event.toJson e) ∧
      (∀ p : Prerequisite, Restores Prerequisite.decode Prerequisite.toJson p) ∧
      (∀ t : Target, Restores Target.decode Target.toJson t) ∧
      (∀ r : Rule, r.IsWritable → Restores Rule.decode Rule.toJson r) ∧
      (∀ c : Clause, c.IsWritable → Restores Clause.decode Clause.toJson c) ∧
      (∀ s : Serving, s.IsWritable → Restores Serving.decode Serving.toJson s) ∧
      (∀ r : Rollout, r.IsWritable → ∀ shared, Restores (Rollout.decode shared) Rollout.toJson r) ∧
      (∀ s : Share, s.IsWritable → Restores Share.decode Share.toJson s) ∧
      (∀ r : SegmentRule, r.IsWritable → Restores SegmentRule.decode SegmentRule.toJson r) ∧
      (∀ t : SegmentTarget, Restores SegmentTarget.decode SegmentTarget.toJson t) :=
  ⟨fun _ => Flag.restores, fun _ => Segment.restores, Reason.restores, fun _ => Detail.restores,
    fun _ => Event.restores, Prerequisite.restores, Target.restores, fun _ => Rule.restores,
    fun _ => Clause.restores, fun _ => Serving.restores, fun _ => Rollout.restores,
    fun _ => Share.restores, fun _ => SegmentRule.restores, SegmentTarget.restores⟩

/-- A flag with an experiment among the members of a rule, a weighted segment, and the report of an
evaluation, with references that are no valid paths. -/
theorem decode_toJson_experiment :
    let clause : Clause := ⟨none, some ⟨"/a//b~"⟩, .unknown,
      [.object [("a", .array [.null]), ("b", .number (.float 0.5))]], true⟩
    let spread : Serving := ⟨none, some ⟨.experiment, some "org", some ⟨"//"⟩, some (-7),
      [⟨0, 33333.3, false⟩, ⟨1, 66666.7, true⟩]⟩⟩
    let f : Flag := {
      key := "f", version := 3, on := true, variations := [.null, .string "v"]
      offVariation := none, fallthrough := .fixed 1, targets := [⟨none, ["u"], 1⟩]
      contextTargets := [⟨some "org", [], 0⟩], prerequisites := [⟨"g", 2⟩]
      rules := [⟨some "r", [clause], spread, true⟩], salt := "", trackEvents := false
      trackEventsFallthrough := true, debugEventsUntilDate := some 1700000000000 }
    let s : Segment := {
      key := "s", version := 1, salt := "x", included := ["u"], excluded := []
      includedContexts := [⟨some "org", ["o"]⟩], excludedContexts := []
      rules := [⟨none, [clause], some 50000, some ⟨""⟩, none⟩], unbounded := true
      generation := some 2, unboundedContextKind := none }
    let d : Detail := ⟨.string "v", some 1, ⟨.ruleMatch 0 (some "r"), true, some .stale⟩⟩
    let e : Event := {
      kind := "feature", creationDate := -1, key := "f", version := 3
      context := .object [("key", .string "u")], value := d.value, variation := d.variationIndex
      default := .null, prerequisiteOf := some "g", reason := some d.reason, trackEvents := false
      debugEventsUntilDate := none }
    (f.IsWritable ∧ Restores Flag.decode Flag.toJson f) ∧
      (s.IsWritable ∧ Restores Segment.decode Segment.toJson s) ∧
      (d.value.Distinct ∧ Restores Detail.decode Detail.toJson d) ∧
      e.IsWritable ∧ Restores Event.decode Event.toJson e := by
  intro clause spread f s d e
  have hclause : clause.IsWritable := by
    refine List.forall_mem_singleton.mpr (.object (by simp [Entries.names]) ?_)
    exact List.forall_mem_cons.mpr ⟨.array (List.forall_mem_singleton.mpr .null),
      List.forall_mem_singleton.mpr (.number _)⟩
  have hspread : spread.IsWritable := by
    rintro r ⟨⟩
    decide
  have hf : f.IsWritable := by
    refine ⟨?_, fun r hr => (by cases hr), List.forall_mem_singleton.mpr ⟨?_, hspread⟩⟩
    · exact List.forall_mem_cons.mpr ⟨.null, List.forall_mem_singleton.mpr (.string _)⟩
    · exact List.forall_mem_singleton.mpr hclause
  have hs : s.IsWritable := by
    refine List.forall_mem_singleton.mpr ⟨List.forall_mem_singleton.mpr hclause, ?_⟩
    rintro w ⟨⟩
    decide
  have hd : d.value.Distinct := .string _
  have he : e.IsWritable := by
    refine ⟨.object (by simp [Entries.names]) ?_, hd, .null⟩
    exact List.forall_mem_singleton.mpr (.string _)
  obtain ⟨hflag, hsegment, -, hdetail, hevent, -⟩ := decode_toJson
  exact ⟨⟨hf, hflag f hf⟩, ⟨hs, hsegment s hs⟩, ⟨hd, hdetail d hd⟩, he, hevent e he⟩

end FeatureFlags
