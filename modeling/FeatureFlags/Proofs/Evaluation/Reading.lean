import Mathlib.Data.List.Find
import FeatureFlags.Proofs.Context.Valid
import FeatureFlags.Proofs.Evaluation.InStep

/-! # What an evaluation reads of the context

Flags and segments read a context in three ways only: its kinds, the key of its part of a kind, and
an attribute of that part (`ContextRead`). Here is listed what each of them reads, and it is shown
that nothing else counts.

* **Agreement** (`evaluateFor_of_agreesOn`) — contexts that agree on what a flag and the stored data
  read are evaluated to the same detail and error, and by the same questions.
* **Likeness** (`evaluateFor_of_looksAlikeOn`) — an attribute counts by what clauses and buckets
  make of it, so it is enough that the contexts look alike to them.
* **Events** — only the events may tell them apart, since they carry the context
  (`Evaluation.SameButEvents`). -/

namespace FeatureFlags

inductive ContextRead where
  | kinds
  /-- the key of the part of a kind -/
  | key (kind : String)
  /-- an attribute of the part of a kind, and whether there is such a part -/
  | value (kind : String) (reference : Reference)

/-- Both contexts give the same for what is read. The order of the kinds does not count. -/
def Context.AgreesOn (c₁ c₂ : Context) : ContextRead → Prop
  | .kinds => ∀ kind, kind ∈ c₁.kinds ↔ kind ∈ c₂.kinds
  | .key kind => c₁.key? kind = c₂.key? kind
  | .value kind reference => (c₁.part? kind).isNone = (c₂.part? kind).isNone ∧
      c₁.value? kind reference = c₂.value? kind reference

/-- Clauses and buckets make the same of both attributes. -/
structure TakenAlike (v₁ v₂ : Option Json) : Prop where
  clauses : ∀ clause : Clause, clause.matchesAttribute? v₁ = clause.matchesAttribute? v₂
  buckets : v₁.bind Bucket.bucketText? = v₂.bind Bucket.bucketText?

/-- Both contexts look alike by what is read: of an attribute only what clauses and buckets make of
it counts. -/
def Context.LooksAlikeOn (c₁ c₂ : Context) : ContextRead → Prop
  | .kinds => ∀ kind, kind ∈ c₁.kinds ↔ kind ∈ c₂.kinds
  | .key kind => c₁.key? kind = c₂.key? kind
  | .value kind reference => (c₁.part? kind).isNone = (c₂.part? kind).isNone ∧
      TakenAlike (c₁.value? kind reference) (c₂.value? kind reference)

theorem Context.AgreesOn.looksAlikeOn {c₁ c₂ : Context} {r : ContextRead}
    (h : c₁.AgreesOn c₂ r) : c₁.LooksAlikeOn c₂ r := by
  cases r with
  | kinds | key => exact h
  | value kind reference =>
      obtain ⟨hpart, hvalue⟩ := h
      exact ⟨hpart, hvalue ▸ ⟨fun _ => rfl, rfl⟩⟩

/-! ## What is read

Each part of a flag or a segment reads for itself. Clauses that name segments read nothing, as the
segments do so in their place. -/

/-- What a clause reads by itself. One that names segments reads nothing. -/
def Clause.reads (clause : Clause) : List ContextRead :=
  if clause.op = .segmentMatch then []
  else match clause.reference with
    | none => []
    | some reference =>
      if reference.isKind then [.kinds]
      else [.value (clause.contextKind.getD Context.defaultKind) reference]

/-- What a rollout reads; a fixed variation reads nothing. -/
def Serving.reads (s : Serving) : List ContextRead :=
  match s.variation, s.rollout with
  | none, some r => [.value (r.contextKind.getD Context.defaultKind) r.bucketReference]
  | _, _ => []

def Flag.reads (f : Flag) : List ContextRead :=
  f.targets.map (fun _ => .key Context.defaultKind) ++
    f.contextTargets.map (fun t => .key (t.contextKind.getD Context.defaultKind)) ++
    f.rules.flatMap (fun rule => rule.clauses.flatMap Clause.reads ++ rule.serving.reads) ++
    f.fallthrough.reads

/-- What is read to look for a context in lists of keys. -/
def SegmentTarget.listReads (userKeys : List String) (targets : List SegmentTarget) :
    List ContextRead :=
  userKeys.map (fun _ => .key Context.defaultKind) ++
    targets.map fun t => .key (t.contextKind.getD Context.defaultKind)

def SegmentRule.reads (rule : SegmentRule) : List ContextRead :=
  rule.clauses.flatMap Clause.reads ++
    if rule.weight.isSome then
      [.value (rule.rolloutContextKind.getD Context.defaultKind) (rule.bucketBy.getD ⟨"key"⟩)]
    else []

/-- What a segment reads by itself. A big segment does not look at its lists. -/
def Segment.reads (s : Segment) : List ContextRead :=
  (if s.unbounded then [.key (s.unboundedContextKind.getD Context.defaultKind)]
    else SegmentTarget.listReads s.included s.includedContexts ++
      SegmentTarget.listReads s.excluded s.excludedContexts) ++
    s.rules.flatMap SegmentRule.reads

def DataSet.reads (d : DataSet) : List ContextRead :=
  d.flags.flatMap (fun e => e.2.reads) ++ d.segments.flatMap (fun e => e.2.reads)

/-! ## Nothing else counts

What looks alike by its reads is treated alike, clause by clause, share by share and list by
list. -/

variable {c₁ c₂ : Context}

theorem Clause.holdsFor_congr {clause : Clause} (hop : clause.op ≠ .segmentMatch)
    (h : ∀ r ∈ clause.reads, c₁.LooksAlikeOn c₂ r) : clause.holdsFor c₁ = clause.holdsFor c₂ := by
  unfold reads at h
  rw [if_neg hop] at h
  unfold holdsFor
  cases hr : clause.reference with
  | none => rfl
  | some reference =>
      rw [hr] at h
      dsimp only at h ⊢
      by_cases hkind : reference.isKind = true
      · rw [if_pos hkind] at h
        have hkinds : c₁.LooksAlikeOn c₂ .kinds := h .kinds List.mem_cons_self
        have hany : (c₁.kinds.any fun kind => clause.matchesValue (.string kind))
            = c₂.kinds.any fun kind => clause.matchesValue (.string kind) := by
          rw [Bool.eq_iff_iff, List.any_eq_true, List.any_eq_true]
          exact exists_congr fun kind => and_congr_left fun _ => hkinds kind
        rw [if_pos hkind, if_pos hkind, hany]
      · rw [if_neg hkind] at h
        obtain ⟨-, hvalue⟩ := h _ List.mem_cons_self
        rw [if_neg hkind, if_neg hkind, hvalue.clauses clause]

theorem Bucket.ofContext_congr {kind : Option String} {reference : Reference}
    (h : c₁.LooksAlikeOn c₂ (.value (kind.getD Context.defaultKind) reference)) (key salt : String)
    (seed : Option Int64) :
    ofContext c₁ key reference salt seed kind = ofContext c₂ key reference salt seed kind := by
  obtain ⟨hpart, hvalue⟩ := h
  exact ofContext_eq_of_text hpart hvalue.buckets key salt seed

theorem Serving.variationFor_congr {s : Serving} (h : ∀ r ∈ s.reads, c₁.LooksAlikeOn c₂ r)
    (key salt : String) : s.variationFor c₁ key salt = s.variationFor c₂ key salt := by
  obtain ⟨variation, rollout⟩ := s
  cases variation with
  | some variation => rfl
  | none =>
      cases rollout with
      | none => rfl
      | some r =>
          have hbucket := Bucket.ofContext_congr (h _ List.mem_cons_self) key salt r.seed
          unfold variationFor
          dsimp only
          rw [hbucket]

/-- An empty list holds no key, whatever the key is. -/
theorem Context.keyIn_congr {kind : String} {keys : List String}
    (h : keys ≠ [] → c₁.key? kind = c₂.key? kind) : c₁.keyIn kind keys = c₂.keyIn kind keys := by
  unfold keyIn
  cases keys with
  | nil => cases c₁.key? kind <;> cases c₂.key? kind <;> rfl
  | cons key keys => rw [h (List.cons_ne_nil key keys)]

theorem Context.listedIn_congr {userKeys : List String} {targets : List SegmentTarget}
    (h : ∀ r ∈ SegmentTarget.listReads userKeys targets, c₁.LooksAlikeOn c₂ r) :
    c₁.listedIn userKeys targets = c₂.listedIn userKeys targets := by
  have huser : c₁.keyIn defaultKind userKeys = c₂.keyIn defaultKind userKeys := by
    refine keyIn_congr fun hne => ?_
    obtain ⟨key, hkey⟩ := List.exists_mem_of_ne_nil userKeys hne
    exact h (.key defaultKind) (List.mem_append_left _ (List.mem_map.mpr ⟨key, hkey, rfl⟩))
  have htargets : ∀ t ∈ targets, c₁.keyIn (t.contextKind.getD defaultKind) t.values
      = c₂.keyIn (t.contextKind.getD defaultKind) t.values := by
    intro t ht
    exact keyIn_congr fun _ => h (.key _) (List.mem_append_right _ (List.mem_map.mpr ⟨t, ht, rfl⟩))
  unfold listedIn
  rw [huser]
  congr 1
  rw [Bool.eq_iff_iff, List.any_eq_true, List.any_eq_true]
  refine exists_congr fun t => and_congr_right fun ht => ?_
  rw [htargets t ht]

theorem Segment.treatsAlike_of_looksAlikeOn {s : Segment}
    (h : ∀ r ∈ s.reads, c₁.LooksAlikeOn c₂ r) : s.TreatsAlike c₁ c₂ := by
  have hrules : ∀ rule ∈ s.rules, ∀ r ∈ rule.reads, c₁.LooksAlikeOn c₂ r := by
    intro rule hrule r hr
    exact h r (List.mem_append_right _ (List.mem_flatMap.mpr ⟨rule, hrule, hr⟩))
  refine ⟨fun hbounded => ?_, fun hunbounded => ?_, fun rule hrule clause hc hop => ?_,
    fun rule hrule => ?_⟩
  · have hlists : ∀ r ∈ SegmentTarget.listReads s.included s.includedContexts ++
        SegmentTarget.listReads s.excluded s.excludedContexts, c₁.LooksAlikeOn c₂ r := by
      intro r hr
      refine h r (List.mem_append_left _ ?_)
      rwa [if_neg (Bool.eq_false_iff.mp hbounded)]
    obtain ⟨hincluded, hexcluded⟩ := List.forall_mem_append.mp hlists
    unfold listed?
    rw [Context.listedIn_congr hincluded, Context.listedIn_congr hexcluded]
  · refine h (.key _) (List.mem_append_left _ ?_)
    rw [if_pos hunbounded]
    exact List.mem_cons_self
  · refine clause.holdsFor_congr hop fun r hr => hrules rule hrule r ?_
    exact List.mem_append_left _ (List.mem_flatMap.mpr ⟨clause, hc, hr⟩)
  -- A rule without a weight takes in everybody and reads nothing.
  · unfold SegmentRule.sharesWith
    cases hweight : rule.weight with
    | none => rfl
    | some weight =>
        have hread : c₁.LooksAlikeOn c₂ (.value (rule.rolloutContextKind.getD Context.defaultKind)
            (rule.bucketBy.getD ⟨"key"⟩)) := by
          refine hrules rule hrule _ (List.mem_append_right _ ?_)
          rw [hweight]
          exact List.mem_cons_self
        dsimp only
        rw [Bucket.ofContext_congr hread]

theorem Flag.targetVariation?_congr {f : Flag} (h : ∀ r ∈ f.reads, c₁.LooksAlikeOn c₂ r) :
    f.targetVariation? c₁ = f.targetVariation? c₂ := by
  obtain ⟨hlists, -⟩ := List.forall_mem_append.mp h
  obtain ⟨hlists, -⟩ := List.forall_mem_append.mp hlists
  obtain ⟨htargets, hcontext⟩ := List.forall_mem_append.mp hlists
  unfold targetVariation?
  split
  · congr 1
    refine List.find?_congr fun t ht => Context.keyIn_congr fun _ => ?_
    exact htargets (.key _) (List.mem_map.mpr ⟨t, ht, rfl⟩)
  · congr 1
    refine List.find?_congr fun t ht => Context.keyIn_congr fun _ => ?_
    exact hcontext (.key _) (List.mem_map.mpr ⟨t, ht, rfl⟩)

theorem Flag.treatsAlike_of_looksAlikeOn {f : Flag} (h : ∀ r ∈ f.reads, c₁.LooksAlikeOn c₂ r) :
    f.TreatsAlike c₁ c₂ := by
  obtain ⟨hbefore, hfallthrough⟩ := List.forall_mem_append.mp h
  obtain ⟨-, hrules⟩ := List.forall_mem_append.mp hbefore
  have hrule : ∀ rule ∈ f.rules, ∀ r ∈ rule.clauses.flatMap Clause.reads ++ rule.serving.reads,
      c₁.LooksAlikeOn c₂ r := fun rule hmem r hr => hrules r (List.mem_flatMap.mpr ⟨rule, hmem, hr⟩)
  refine ⟨targetVariation?_congr h, fun rule hmem clause hc hop => ?_, fun rule hmem => ?_,
    Serving.variationFor_congr hfallthrough _ _⟩
  · refine clause.holdsFor_congr hop fun r hr => hrule rule hmem r ?_
    exact List.mem_append_left _ (List.mem_flatMap.mpr ⟨clause, hc, hr⟩)
  · refine Serving.variationFor_congr (fun r hr => ?_) _ _
    exact hrule rule hmem r (List.mem_append_right _ hr)

/-! ## Whole evaluations

The two runs are in step with everything but their events, and events are never looked at. -/

structure Progress.SameButEvents (p q : Progress) : Prop where
  status : p.status = q.status
  memberships : p.memberships = q.memberships
  queries : p.queries = q.queries

/-- The two come to the same detail and error, by the same questions. -/
structure Evaluation.SameButEvents (e₁ e₂ : Evaluation) : Prop where
  detail : e₁.detail = e₂.detail
  error : e₁.error = e₂.error
  queries : e₁.queries = e₂.queries

/-- What was gathered shows in an answer only as health, events and questions. -/
theorem Evaluation.SameButEvents.ofRun (r : Except EvaluationError Detail) {p q : Progress}
    (h : p.SameButEvents q) : (Evaluation.ofRun r p).SameButEvents (Evaluation.ofRun r q) := by
  cases r with
  | ok d => exact ⟨by unfold Evaluation.ofRun; rw [h.status], rfl, h.queries⟩
  | error e => exact ⟨by unfold Evaluation.ofRun; rw [h.status], rfl, h.queries⟩

namespace Run.InStep

theorem ask_sameButEvents (query : Query) :
    InStep Progress.SameButEvents (Run.ask query) (Run.ask query) := by
  intro p q h
  refine ⟨rfl, h.status, h.memberships, ?_⟩
  show p.queries ++ [query] = q.queries ++ [query]
  rw [h.queries]

theorem mergeStatus_sameButEvents (s : BigSegmentsStatus) :
    InStep Progress.SameButEvents (Run.mergeStatus s) (Run.mergeStatus s) := by
  intro p q h
  refine ⟨rfl, ?_, h.memberships, h.queries⟩
  rw [exec_mergeStatus, exec_mergeStatus, h.status]

/-- Asking once looks at what is remembered, never at the events. -/
theorem askOnce_sameButEvents (source : Source) (contextKey : String) :
    InStep Progress.SameButEvents (source.askOnce contextKey) (source.askOnce contextKey) := by
  have hanew : InStep Progress.SameButEvents (source.askAnew contextKey)
      (source.askAnew contextKey) := by
    unfold Source.askAnew
    refine .bind (ask_sameButEvents _) fun _ => ?_
    cases source.membership? contextKey with
    | none => exact .bind (mergeStatus_sameButEvents _) fun _ => .pure _
    | some found => exact .bind (mergeStatus_sameButEvents _) fun _ => .pure _
  intro p q h
  rw [Source.exec_askOnce, Source.exec_askOnce, h.memberships]
  cases Entries.find? contextKey q.memberships with
  | some answer => exact ⟨rfl, h⟩
  | none =>
      obtain ⟨-, hleft⟩ := hanew p q h
      exact ⟨rfl, hleft.status, congrArg (Entries.insert contextKey _) hleft.memberships,
        hleft.queries⟩

end Run.InStep

namespace Environment

/-- A context is evaluated as its value is. -/
theorem evaluateValue_toJson {env : Environment} {policy : EventPolicy} {f : Option Flag}
    {c : Context} (h : c.Valid) :
    env.evaluateValue policy f c.toJson = env.evaluateFor policy f c := by
  unfold evaluateValue
  rw [h.ofJson_toJson]

/-- Contexts that no flag and no segment can tell apart are evaluated to the same detail and error,
and by the same questions. -/
theorem evaluateFor_of_treatsAlike (source : Source) (policy : EventPolicy) {f : Flag}
    (hf : f.TreatsAlike c₁ c₂)
    (hflags : ∀ key g, Entries.find? key source.data.flags = some g → g.TreatsAlike c₁ c₂)
    (hsegments : ∀ key s, Entries.find? key source.data.segments = some s →
      s.TreatsAlike c₁ c₂) :
    (source.environment.evaluateFor policy (some f) c₁).SameButEvents
      (source.environment.evaluateFor policy (some f) c₂) := by
  have hkeeps : KeepsInStep source.environment source.environment policy c₁ c₂
      Progress.SameButEvents :=
    { ask := .ask_sameButEvents
      report := fun _ _ _ _ _ h => ⟨rfl, h.status, h.memberships, h.queries⟩
      segments := by
        intro key
        cases hs : Entries.find? key source.environment.data.segments with
        | none => exact .none
        | some s =>
            exact .some fun _ _ hin => resolveSegment_inStep hin (hsegments key s hs)
              .mergeStatus_sameButEvents (.askOnce_sameButEvents source)
      flags := fun _ => rfl
      treatsAlike := hflags }
  obtain ⟨houtcome, hleft⟩ := evaluate_inStep hkeeps [f.key] hf .start .start ⟨rfl, rfl, rfl⟩
  rw [evaluateFor_some, evaluateFor_some, houtcome]
  exact .ofRun _ hleft

/-- Two contexts that look alike by what the flag and the stored data read are evaluated to the same
detail and error, and by the same questions. -/
theorem evaluateFor_of_looksAlikeOn (source : Source) (policy : EventPolicy) {f : Flag}
    (hf : ∀ r ∈ f.reads, c₁.LooksAlikeOn c₂ r)
    (hd : ∀ r ∈ source.data.reads, c₁.LooksAlikeOn c₂ r) :
    (source.environment.evaluateFor policy (some f) c₁).SameButEvents
      (source.environment.evaluateFor policy (some f) c₂) := by
  obtain ⟨hflags, hsegments⟩ := List.forall_mem_append.mp hd
  refine evaluateFor_of_treatsAlike source policy (Flag.treatsAlike_of_looksAlikeOn hf)
    (fun key g hg => ?_) fun key s hs => ?_
  · exact Flag.treatsAlike_of_looksAlikeOn fun r hr =>
      hflags r (List.mem_flatMap.mpr ⟨(key, g), Entries.mem_of_find? hg, hr⟩)
  · exact Segment.treatsAlike_of_looksAlikeOn fun r hr =>
      hsegments r (List.mem_flatMap.mpr ⟨(key, s), Entries.mem_of_find? hs, hr⟩)

/-- **Only what is read counts.** Two contexts that agree on what the flag and the stored data read
are evaluated to the same detail and error, and by the same questions. -/
theorem evaluateFor_of_agreesOn (source : Source) (policy : EventPolicy) {f : Flag}
    (hf : ∀ r ∈ f.reads, c₁.AgreesOn c₂ r) (hd : ∀ r ∈ source.data.reads, c₁.AgreesOn c₂ r) :
    (source.environment.evaluateFor policy (some f) c₁).SameButEvents
      (source.environment.evaluateFor policy (some f) c₂) :=
  evaluateFor_of_looksAlikeOn source policy (fun r hr => (hf r hr).looksAlikeOn)
    fun r hr => (hd r hr).looksAlikeOn

end Environment
end FeatureFlags
