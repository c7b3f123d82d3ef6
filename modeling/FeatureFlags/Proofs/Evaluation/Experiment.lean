import FeatureFlags.Proofs.Context.Acceptance
import FeatureFlags.Proofs.Evaluation.Precedence
import FeatureFlags.Proofs.Evaluation.Progress
import FeatureFlags.Proofs.Evaluation.Selection

/-! # Who takes part in an experiment

Whether an experiment serves a context is decided where the share is picked, and is then handed on
with the variation into the reason and from there into the event. Here it is said beside that, from
the flag and the context alone, when a serving enrols a context (`Serving.Enrols`).

* **Reasons** — the reason of an evaluation speaks of an experiment exactly if what served the
  value, the fallthrough or a rule, enrols the context (`Detail.Attributes`).
* **Prerequisites** — so do the reasons of the flags that were evaluated as prerequisites.
* **Events** — the event of an evaluation that speaks of an experiment carries the reason and is
  tracked, under every policy.

All three are put together in `evaluateValue_inExperiment`. -/

namespace FeatureFlags

open Run (Ends)

variable {c : Context}

/-! ## Enrolment

An experiment has the kind of context that it is made for, and its shares may be untracked. A
rollout that is no experiment enrols nobody. -/

/-- The rollout experiments, the context has a part of its kind, and the key of that part falls into
a share that is not untracked. -/
def Rollout.Enrols (r : Rollout) (c : Context) (flagKey salt : String) : Prop :=
  r.kind = .experiment ∧
    ∃ part key, c.part? (r.contextKind.getD Context.defaultKind) = some part ∧
      part.member? "key" = some (.string key) ∧
      ∃ share, r.Selects (Bucket.ofText flagKey salt r.seed key) share ∧ share.untracked = false

/-- No variation is fixed, and the rollout enrols the context. -/
def Serving.Enrols (s : Serving) (c : Context) (flagKey salt : String) : Prop :=
  s.variation = none ∧ ∃ r, s.rollout = some r ∧ r.Enrols c flagKey salt

/-- What serves for a reason of this kind, the fallthrough or a rule of the flag, enrols the
context. Nothing else does. -/
def Flag.Enrols (f : Flag) (c : Context) : ReasonKind → Prop
  | .fallthrough => f.fallthrough.Enrols c f.key f.salt
  | .ruleMatch index id =>
    ∃ rule, f.rules[index]? = some rule ∧ rule.id = id ∧ rule.serving.Enrols c f.key f.salt
  | .off | .targetMatch | .prerequisiteFailed _ | .error _ => False

def Detail.Attributes (d : Detail) (f : Flag) (c : Context) : Prop :=
  d.reason.inExperiment = true ↔ f.Enrols c d.reason.kind

/-! ## Buckets by key

Experiments bucket by key, whatever attribute the rollout names. A context has a key for each of its
kinds, so it has a bucket there. -/

/-- A part of a context is bucketed by its key. -/
theorem Context.Valid.ofContext_key (h : c.Valid) {kind : Option String} {part : Json}
    (hpart : c.part? (kind.getD Context.defaultKind) = some part) (flagKey salt : String)
    (seed : Option Int64) :
    ∃ key, part.member? "key" = some (.string key) ∧
      Bucket.ofContext c flagKey ⟨"key"⟩ salt seed kind
        = (Bucket.ofText flagKey salt seed key, true) := by
  have hmem : kind.getD Context.defaultKind ∈ c.kinds := h.mem_kinds_of_part? (by rw [hpart]; rfl)
  obtain ⟨part', key, hpart', hkey, -⟩ := h.exists_part hmem
  obtain rfl := Option.some.inj (hpart.symm.trans hpart')
  have hvalue : c.value? (kind.getD Context.defaultKind) ⟨"key"⟩ = some (.string key) := by
    have hget : Reference.get? ⟨"key"⟩ part = some (.string key) := by
      show (part.member? "key" >>= fun v => Reference.descend v []) = _
      rw [hkey]
      rfl
    rw [Context.value?, hpart, Option.bind_eq_bind, Option.bind_some, hget]
  refine ⟨key, hkey, ?_⟩
  rw [Bucket.ofContext_of_value? hvalue]
  rfl

/-- A share is told to be tracked if and only if the rollout enrols the context. -/
theorem Rollout.isTracked_iff_enrols {r : Rollout} {last : Share} (hc : c.Valid)
    (hlast : r.shares.getLast? = some last) (flagKey salt : String) :
    let found := Bucket.ofContext c flagKey r.bucketReference salt r.seed r.contextKind
    (r.kind == .experiment && found.2 && !(r.shareAt last found.1).untracked) = true
      ↔ r.Enrols c flagKey salt := by
  intro found
  by_cases hkind : r.kind = .experiment
  · have hreference : r.bucketReference = ⟨"key"⟩ := if_pos hkind
    have hfound : found = Bucket.ofContext c flagKey ⟨"key"⟩ salt r.seed r.contextKind := by
      rw [← hreference]
    cases hpart : c.part? (r.contextKind.getD Context.defaultKind) with
    | none =>
        -- A share is picked for bucket zero then, but the context takes no part.
        have hno : found.2 = false := by
          rw [hfound, Bucket.ofContext, hpart]
          rfl
        rw [hno, Bool.and_false, Bool.false_and]
        refine ⟨nofun, ?_⟩
        rintro ⟨-, part, key, hsome, -⟩
        rw [hpart] at hsome
        cases hsome
    | some part =>
        obtain ⟨key, hkey, hbucket⟩ := hc.ofContext_key hpart flagKey salt r.seed
        rw [hfound, hbucket, hkind, Bool.and_eq_true, Bool.not_eq_true']
        constructor
        · rintro ⟨-, htracked⟩
          exact ⟨hkind, part, key, hpart, hkey, _, (shareAt_eq_iff hlast).mp rfl, htracked⟩
        · rintro ⟨-, part', key', hpart', hkey', share, hselects, htracked⟩
          obtain rfl := Option.some.inj (hpart.symm.trans hpart')
          obtain rfl := Json.string.inj (Option.some.inj (hkey.symm.trans hkey'))
          rw [(shareAt_eq_iff hlast).mpr hselects]
          exact ⟨rfl, htracked⟩
  · rw [beq_false_of_ne hkind, Bool.false_and, Bool.false_and]
    exact ⟨nofun, fun henrols => absurd henrols.1 hkind⟩

/-- Along with the variation it is told whether the context is enrolled. -/
theorem Serving.inExperiment_iff_enrols {s : Serving} {flagKey salt : String}
    {served : Int64 × Bool} (hc : c.Valid) (h : s.variationFor c flagKey salt = .ok served) :
    served.2 = true ↔ s.Enrols c flagKey salt := by
  obtain ⟨variation, rollout⟩ := s
  cases variation with
  | some variation =>
      cases h
      exact ⟨nofun, fun henrols => by cases henrols.1⟩
  | none =>
      cases rollout with
      | none => cases h
      | some r =>
          have hserving : Serving.Enrols ⟨none, some r⟩ c flagKey salt ↔ r.Enrols c flagKey salt :=
            ⟨fun ⟨_, _, hr, henrols⟩ => by cases hr; exact henrols,
              fun henrols => ⟨rfl, r, rfl, henrols⟩⟩
          unfold variationFor at h
          dsimp only at h
          -- Without shares nothing is served, nor is it where the name to bucket by is not valid.
          cases hlast : r.shares.getLast? with
          | none =>
              rw [hlast] at h
              cases h
          | some last =>
              rw [hlast] at h
              dsimp only at h
              split at h
              · cases h
                rw [hserving]
                exact Rollout.isTracked_iff_enrols hc hlast flagKey salt
              · cases h

/-! ## Reasons

Only the fallthrough and the rules serve by rollouts; the other reasons never speak of an
experiment. -/

namespace Flag

/-- A detail for a reason that is never one of an experiment. -/
theorem attributes_of_plain {f : Flag} {kind : ReasonKind} (h : ¬ f.Enrols c kind) {d : Detail}
    (hd : d.reason = .plain kind) : d.Attributes f c := by
  unfold Detail.Attributes
  rw [hd]
  exact ⟨nofun, fun henrols => absurd henrols h⟩

theorem serveFor_attributes (hc : c.Valid) (f : Flag) {serving : Serving} {kind : ReasonKind}
    (h : f.Enrols c kind ↔ serving.Enrols c f.key f.salt) :
    Outcome (Detail.Attributes · f c) (fun _ => True) (f.serveFor c serving kind) := by
  unfold serveFor
  cases hserved : serving.variationFor c f.key f.salt with
  | error e => trivial
  | ok served =>
      refine (f.serve_reason served.1 (.tracked kind served.2)).mono (fun d hd => ?_) fun _ h => h
      unfold Detail.Attributes
      rw [hd]
      exact (Serving.inExperiment_iff_enrols hc hserved).trans h.symm

end Flag

namespace Environment

theorem evaluate_attributes (env : Environment) (policy : EventPolicy) (hc : c.Valid) (f : Flag)
    (path : List String) :
    Ends (env.evaluate policy c path f) (Detail.Attributes · f c) (fun _ => True) := by
  refine evaluate_ends_serving (fun kind hkind => ?_) (fun variation => ?_)
    (fun index rule hrule => ?_) ?_ path
  · have hno : ¬ f.Enrols c kind := by
      rcases hkind with rfl | ⟨key, rfl⟩ <;> exact id
    exact (f.serveOff_reason _).mono (fun _ => Flag.attributes_of_plain hno) fun _ h => h
  · have hno : ¬ f.Enrols c .targetMatch := id
    exact (f.serve_reason _ _).mono (fun _ => Flag.attributes_of_plain hno) fun _ h => h
  · refine f.serveFor_attributes hc ⟨?_, fun henrols => ⟨rule, hrule, rfl, henrols⟩⟩
    rintro ⟨rule', hrule', -, henrols⟩
    obtain rfl := Option.some.inj (hrule.symm.trans hrule')
    exact henrols
  · exact f.serveFor_attributes hc .rfl

end Environment

/-! ## Events

Events are made by a policy, from a detail that it does not change. -/

/-- The event of an evaluation by an experiment carries its reason and is tracked, whatever the
policy. -/
theorem EventPolicy.event_of_inExperiment (policy : EventPolicy) (f : Flag) (c : Context)
    {d : Detail} (h : d.reason.inExperiment = true) (default : Json) (parent : Option Flag) :
    (policy.event f c d default parent).reason = some d.reason ∧
      (policy.event f c d default parent).trackEvents = true := by
  have hexperiment : f.isExperiment d.reason = true := by
    rw [Flag.isExperiment, h, Bool.true_or]
  unfold event
  dsimp only
  rw [hexperiment, Bool.or_true, Bool.or_true]
  exact ⟨rfl, rfl⟩

namespace Environment

theorem evaluateFor_attributes (env : Environment) (policy : EventPolicy) (hc : c.Valid)
    (f : Flag) : (env.evaluateFor policy (some f) c).detail.Attributes f c := by
  have hends := env.evaluate_attributes policy hc f [f.key] .start
  rw [evaluateFor_some]
  cases hr : (Run.exec (env.evaluate policy c [f.key] f) .start).1 with
  | ok d =>
      rw [hr] at hends
      exact hends
  | error e => exact ⟨nofun, False.elim⟩

/-- **Who takes part in an experiment.** The reason of an evaluation says that an experiment served
the value if and only if the fallthrough or rule that served it enrols the context. So does the
reason of a prerequisite, and an event about one that enrols the context carries its reason and is
tracked under every policy. -/
theorem evaluateValue_inExperiment (source : Source) (policy : EventPolicy) (f : Flag) (v : Json)
    (c : Context) (hc : Context.ofJson v = .ok c) :
    let e := source.environment.evaluateValue policy (some f) v
    (e.detail.reason.inExperiment = true ↔ f.Enrols c e.detail.reason.kind) ∧
      ∀ event ∈ e.events, ∃ g d parent, source.environment.MayReport policy c g d ∧
        event = policy.event g c d .null (some parent) ∧
        (d.reason.inExperiment = true ↔ g.Enrols c d.reason.kind) ∧
        (g.Enrols c d.reason.kind → ∀ policy' : EventPolicy,
          let event' := policy'.event g c d .null (some parent)
          event'.reason = some d.reason ∧ event'.trackEvents = true) := by
  have hvalid : c.Valid := Context.valid_of_ofJson hc
  have hvalue : source.environment.evaluateValue policy (some f) v
      = source.environment.evaluateFor policy (some f) c := by
    rw [evaluateValue, hc]
  rw [hvalue]
  refine ⟨source.environment.evaluateFor_attributes policy hvalid f, ?_⟩
  refine forall_events_evaluateFor source (fun g d parent hd => ?_) (some f)
  have hattributes : d.Attributes g c :=
    hd.of_ends (source.environment.evaluate_attributes policy hvalid g) fun _ => ⟨nofun, False.elim⟩
  refine ⟨g, d, parent, hd, rfl, hattributes, fun henrols policy' => ?_⟩
  exact policy'.event_of_inExperiment g c (hattributes.mpr henrols) .null (some parent)

/-- The prerequisite serves the same variation by two shares, and the context falls into the one
that is tracked. The flag itself experiments on a kind that the context does not have. -/
theorem evaluateValue_inExperiment_shares :
    let spread (kind : String) : Serving :=
      .spread ⟨.experiment, some kind, some ⟨"name"⟩, none, [⟨0, 50000, true⟩, ⟨0, 50000, false⟩]⟩
    let g : Flag := { Flag.named "g" [] with fallthrough := spread "org" }
    let f : Flag := { Flag.named "f" [⟨"g", 0⟩] with fallthrough := spread "device" }
    let source : Source := ⟨⟨[("g", g)], []⟩, fun _ => none⟩
    let v : Json := .object [("kind", .string "org"), ("key", .string "k"), ("name", .string "n")]
    let e := source.environment.evaluateValue default (some f) v
    ∃ c, Context.ofJson v = .ok c ∧
      e.detail.reason = .tracked .fallthrough false ∧ ¬ f.Enrols c .fallthrough ∧
      (e.events.map fun event => (event.key, event.trackEvents, event.reason))
        = [("g", true, some (.tracked .fallthrough true))] ∧ g.Enrols c .fallthrough := by
  intro spread g f source v e
  let c : Context := ⟨[("kind", .string "org"), ("key", .string "k"), ("name", .string "n")], false⟩
  have hreason : e.detail.reason = .tracked .fallthrough false := by decide +kernel
  have htold : (e.events.map fun event => (event.key, event.trackEvents, event.reason))
      = [("g", true, some (.tracked .fallthrough true))] := by decide +kernel
  obtain ⟨hown, hevents⟩ := evaluateValue_inExperiment source default f v c rfl
  have hno : ¬ f.Enrols c .fallthrough := by
    intro henrols
    have hyes : e.detail.reason.inExperiment = true := hown.mpr (hreason ▸ henrols)
    rw [hreason] at hyes
    cases hyes
  refine ⟨c, rfl, hreason, hno, htold, ?_⟩
  obtain ⟨event, hevent, hreported⟩ : ∃ event ∈ e.events,
      (event.key, event.trackEvents, event.reason)
        = ("g", true, some (.tracked .fallthrough true)) := by
    rw [← List.mem_map, htold]
    exact List.mem_singleton_self _
  obtain ⟨g', d, parent, hd, rfl, hattributes, -⟩ := hevents event hevent
  obtain rfl : g' = g := by
    obtain ⟨key, hkey⟩ := hd.stored
    exact List.mem_singleton.mp (List.mem_map_of_mem (f := Prod.snd) (Entries.mem_of_find? hkey))
  have hcarried : (EventPolicy.event default g c d .null (some parent)).reason
      = some (.tracked .fallthrough true) := congrArg (fun told => told.2.2) hreported
  have hdetail : Reason.tracked .fallthrough true = d.reason :=
    EventPolicy.mem_reason_event hcarried
  rw [← hdetail] at hattributes
  exact hattributes.mp rfl

end Environment
end FeatureFlags
