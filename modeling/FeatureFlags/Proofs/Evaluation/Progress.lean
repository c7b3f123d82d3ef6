import FeatureFlags.Proofs.Evaluation.Ending
import FeatureFlags.Proofs.Run.Progress

/-! # What an evaluation makes of its progress

An evaluation asks, learns about the health of the store, gets at memberships and reports events of
its policy, and does nothing else to its progress: a relation that each of these keeps is kept by
every evaluation (`evaluate_moves`).

A relation between what is asked and what is learnt is kept only by both together. For such a
relation looking a segment up that has no generation counts as one thing
(`ResolvesWithin`, `evaluate_moves_of`).

What a flag comes to as a prerequisite is known as far as every evaluation of it ends that way
(`MayReport`). So the relation has to be kept by the events of a policy about such details only, and
what these events have, all events have (`forall_events_evaluateFor`). -/

namespace FeatureFlags

/-- Memberships do not tell about the segment, since it has no generation. -/
def Segment.isUnversioned (s : Segment) : Bool := s.unbounded && s.generation.isNone

/-- An event carries the reason of the evaluation, if any. -/
theorem EventPolicy.mem_reason_event {policy : EventPolicy} {g : Flag} {c : Context} {d : Detail}
    {default : Json} {f : Option Flag} {reason : Reason}
    (h : reason ∈ (policy.event g c d default f).reason) : reason = d.reason := by
  unfold event at h
  dsimp only at h
  split at h
  · cases h
    rfl
  · cases h

namespace Environment

open Run (Ends Moves IsPath)

/-- The relation holds along everything that looking for a context in segments does by itself. Only
memberships of the parts of the context are needed. -/
structure LooksUpWithin (env : Environment) (c : Context) (R : Progress → Progress → Prop) : Prop
    extends IsPath R where
  askSegment : ∀ key, Moves R (Run.ask (.segment key))
  mergeStatus : ∀ s, Moves R (Run.mergeStatus s)
  membership : ∀ kind contextKey, c.key? kind = some contextKey →
    Moves R (env.membership contextKey)

/-- The relation holds along everything that looking for a context in segments does by itself, where
asking for a segment without a generation goes together with learning that it has none. -/
structure ResolvesWithin (env : Environment) (c : Context) (R : Progress → Progress → Prop) : Prop
    extends IsPath R where
  askSegment : ∀ key, (∀ s, Entries.find? key env.data.segments = some s → ¬ s.isUnversioned) →
    Moves R (Run.ask (.segment key))
  askUnversioned : ∀ key s, Entries.find? key env.data.segments = some s → s.isUnversioned →
    Moves R (do Run.ask (.segment key); Run.mergeStatus .notConfigured)
  membership : ∀ kind contextKey, c.key? kind = some contextKey →
    Moves R (env.membership contextKey)

/-- The relation holds along everything that an evaluation does by itself. -/
structure EvaluatesWithin (env : Environment) (policy : EventPolicy) (c : Context)
    (R : Progress → Progress → Prop) : Prop extends LooksUpWithin env c R where
  askFlag : ∀ key, Moves R (Run.ask (.flag key))
  report : ∀ g d f, Moves R (Run.report (policy.event g c d .null (some f)))

variable {env : Environment} {policy : EventPolicy} {c : Context} {R : Progress → Progress → Prop}
  {inSeg : String → Run Bool}

/-! ## Segments -/

theorem clauseHolds_moves (h : IsPath R) (hin : ∀ key, Moves R (inSeg key)) (clause : Clause) :
    Moves R (clauseHolds inSeg c clause) := by
  unfold clauseHolds
  split
  · exact .bind h (.anyM h fun key _ => hin key) fun matched => .pure h _
  · exact .ofExcept h _

theorem clausesHold_moves (h : IsPath R) (hin : ∀ key, Moves R (inSeg key))
    (clauses : List Clause) : Moves R (clausesHold inSeg c clauses) :=
  .allM h fun clause _ => clauseHolds_moves h hin clause

theorem segmentRulesHold_moves (h : IsPath R) (hin : ∀ key, Moves R (inSeg key)) (s : Segment) :
    Moves R (segmentRulesHold inSeg c s) := by
  refine .anyM h fun rule _ => ?_
  refine .bind h (clausesHold_moves h hin rule.clauses) fun holds => ?_
  cases holds with
  | true => exact .ofExcept h _
  | false => exact .pure h false

theorem resolveSegment_of_unversioned {s : Segment} (h : s.isUnversioned) :
    env.resolveSegment inSeg c s = do Run.mergeStatus .notConfigured; return false := by
  obtain ⟨hunbounded, hnone⟩ := Bool.and_eq_true_iff.mp h
  rw [resolveSegment, if_pos hunbounded, bigSegmentContains, Option.isNone_iff_eq_none.mp hnone]

theorem resolveSegment_moves (h : env.ResolvesWithin c R) (hin : ∀ key, Moves R (inSeg key))
    {s : Segment} (hs : ¬ s.isUnversioned) : Moves R (env.resolveSegment inSeg c s) := by
  have hpath := h.toIsPath
  have hrules := segmentRulesHold_moves (c := c) hpath hin s
  unfold resolveSegment
  split
  · next hunbounded =>
      unfold bigSegmentContains
      cases hgen : s.generation with
      | none => exact absurd (by rw [Segment.isUnversioned, hunbounded, hgen]; rfl) hs
      | some generation =>
          -- Without a part of its kind, the context cannot be a member.
          cases hkey : c.key? (s.unboundedContextKind.getD Context.defaultKind) with
          | none => exact .pure hpath false
          | some contextKey =>
              refine .bind hpath (h.membership _ contextKey hkey) fun membership => ?_
              cases membership.bind (Entries.find? (s.generationName generation)) with
              | some included => exact .pure hpath included
              | none => exact hrules
  · unfold segmentContains
    cases s.listed? c with
    | some listed => exact .pure hpath listed
    | none => exact hrules

/-- A relation that is kept by what looking for a context in segments does by itself is kept by
every look-up. -/
theorem inSegment_moves_of (h : env.ResolvesWithin c R) (path : List String) (key : String) :
    Moves R (env.inSegment c path key) := by
  have hpath := h.toIsPath
  induction path using env.data.segments.induction_off_path generalizing key with
  | step path ih =>
      rw [inSegment_eq, lookUpSegment]
      by_cases hp : key ∈ path
      · rw [if_pos hp]
        exact .throw hpath _
      · rw [if_neg hp]
        cases hs : Entries.find? key env.data.segments with
        | none =>
            have hask := h.askSegment key fun s h => by rw [hs] at h; cases h
            exact .bind hpath hask fun _ => .pure hpath false
        | some s =>
            -- A segment without a generation is asked for and learnt from in one.
            by_cases hun : s.isUnversioned
            · show Moves R (Run.ask (.segment key) >>= fun _ => env.resolveSegment _ c s)
              rw [resolveSegment_of_unversioned hun, ← bind_assoc]
              exact .bind hpath (h.askUnversioned key s hs hun) fun _ => .pure hpath false
            · have hask := h.askSegment key fun t ht => by
                rw [hs] at ht
                cases ht
                exact hun
              exact .bind hpath hask fun _ => resolveSegment_moves h (ih key s hp hs) hun

theorem LooksUpWithin.resolves (h : env.LooksUpWithin c R) : env.ResolvesWithin c R :=
  { h.toIsPath with
    askSegment := fun key _ => h.askSegment key
    askUnversioned := fun key _ _ _ =>
      .bind h.toIsPath (h.askSegment key) fun _ => h.mergeStatus .notConfigured
    membership := h.membership }

theorem inSegment_moves (h : env.LooksUpWithin c R) (path : List String) (key : String) :
    Moves R (env.inSegment c path key) :=
  inSegment_moves_of h.resolves path key

/-! ## Flags -/

theorem firstRule?_moves (h : IsPath R) (hin : ∀ key, Moves R (inSeg key)) (index : Nat)
    (rules : List Rule) : Moves R (firstRule? inSeg c index rules) := by
  induction rules generalizing index with
  | nil => exact .pure h none
  | cons rule rules ih =>
      refine .bind h (clausesHold_moves h hin rule.clauses) fun holds => ?_
      cases holds with
      | true => exact .pure h _
      | false => exact ih (index + 1)

theorem serveOn_moves (h : IsPath R) (hin : ∀ key, Moves R (inSeg key)) (f : Flag) :
    Moves R (serveOn inSeg c f) := by
  unfold serveOn
  cases f.targetVariation? c with
  | some variation => exact .ofExcept h _
  | none =>
      refine .bind h (firstRule?_moves h hin 0 f.rules) fun found => ?_
      cases found with
      | none => exact .ofExcept h _
      | some rule => exact .ofExcept h _

/-- The stored flag `g`, evaluated as a prerequisite, comes to `d` somewhere. -/
structure MayReport (env : Environment) (policy : EventPolicy) (c : Context) (g : Flag)
    (d : Detail) : Prop where
  stored : ∃ key, Entries.find? key env.data.flags = some g
  comesTo : ∃ path p, contained (Run.exec (env.evaluate policy c path g) p).1 = .ok d

/-- What a flag comes to wherever it is evaluated is reported of it. -/
theorem MayReport.of_ends {g : Flag} {d : Detail} (h : env.MayReport policy c g d)
    {A : Detail → Prop} (hends : ∀ path, Ends (env.evaluate policy c path g) A (fun _ => True))
    (herror : ∀ e : EvaluationError, A (.ofError e.kind)) : A d := by
  obtain ⟨path, p, hd⟩ := h.comesTo
  have hcontained := Ends.contain (hends path) (fun e _ _ => herror e) p
  rw [exec_contain, hd] at hcontained
  exact hcontained

/-- Neither a detail nor what is left of an error carries the health yet. -/
theorem MayReport.withoutHealth {g : Flag} {d : Detail} (h : env.MayReport policy c g d) :
    d.withoutHealth = d :=
  h.of_ends (A := fun d => d.withoutHealth = d)
    (fun path => env.evaluate_withoutHealth policy c path g) fun _ => rfl

theorem isMet_moves (h : IsPath R) (hask : ∀ key, Moves R (Run.ask (.flag key)))
    (hreport : ∀ g d f, env.MayReport policy c g d →
      Moves R (Run.report (policy.event g c d .null (some f))))
    {path : List String} {f : Flag} {p : Prerequisite}
    (hdeeper : p.key ∉ path → ∀ g, Entries.find? p.key env.data.flags = some g →
      Moves R (env.evaluate policy c (p.key :: path) g)) :
    Moves R (env.isMet policy c path f p) := by
  rw [isMet, meets]
  by_cases hp : p.key ∈ path
  · rw [if_pos hp]
    exact .throw h _
  · rw [if_neg hp]
    refine .bind h (hask p.key) fun _ => ?_
    cases hg : Entries.find? p.key env.data.flags with
    | none => exact .pure h false
    | some g =>
        have hdetail : Ends (contain (env.evaluate policy c (p.key :: path) g))
            (env.MayReport policy c g) (fun _ => True) := by
          refine (Ends.comesTo _).mono (fun d hd => ⟨⟨p.key, hg⟩, p.key :: path, ?_⟩) fun _ h => h
          obtain ⟨before, hd⟩ := hd
          rw [exec_contain] at hd
          exact ⟨before, hd⟩
        refine .bind_ends h hdetail (.contain (hdeeper hp g hg)) fun d hd => ?_
        exact .bind h (hreport g d f hd) fun _ => .pure h _

theorem firstUnmet?_moves (h : IsPath R) {isMet : Prerequisite → Run Bool}
    {ps : List Prerequisite} (hmet : ∀ p ∈ ps, Moves R (isMet p)) :
    Moves R (firstUnmet? isMet ps) := by
  induction ps with
  | nil => exact .pure h none
  | cons p ps ih =>
      refine .bind h (hmet p List.mem_cons_self) fun met => ?_
      cases met with
      | false => exact .pure h _
      | true => exact ih fun q hq => hmet q (List.mem_cons_of_mem p hq)

/-- A relation that is kept by asking for flags, by looking for the context in segments and by
reporting what flags come to is kept by every evaluation. -/
theorem evaluate_moves_of (h : IsPath R) (hask : ∀ key, Moves R (Run.ask (.flag key)))
    (hin : ∀ key, Moves R (env.inSegment c [] key))
    (hreport : ∀ g d f, env.MayReport policy c g d →
      Moves R (Run.report (policy.event g c d .null (some f))))
    (path : List String) (f : Flag) : Moves R (env.evaluate policy c path f) := by
  induction path using env.data.flags.induction_off_path generalizing f with
  | step path ih =>
      rw [evaluate_eq]
      split
      · exact .ofExcept h _
      · have hcheck : Moves R (env.checkPrerequisites policy c path f) :=
          firstUnmet?_moves h fun p _ => isMet_moves h hask hreport fun hp g hg =>
            ih p.key g hp hg g
        refine .bind h hcheck fun unmet => ?_
        cases unmet with
        | some p => exact .ofExcept h _
        | none => exact serveOn_moves h hin f

/-- A relation that is kept by everything an evaluation does by itself is kept by every
evaluation. -/
theorem evaluate_moves (h : env.EvaluatesWithin policy c R) (path : List String) (f : Flag) :
    Moves R (env.evaluate policy c path f) :=
  evaluate_moves_of h.toIsPath h.askFlag (inSegment_moves h.toLooksUpWithin [])
    (fun g d f _ => h.report g d f) path f

/-! ## Events -/

/-- What the events of a policy about stored flags have, all events have. -/
theorem forall_events_evaluate (source : Source) {P : Event → Prop}
    (h : ∀ g d f, source.environment.MayReport policy c g d →
      P (policy.event g c d .null (some f))) (path : List String) (f : Flag) :
    Moves (fun p q => (∀ e ∈ p.events, P e) → ∀ e ∈ q.events, P e)
      (source.environment.evaluate policy c path f) := by
  have hsegments : source.environment.LooksUpWithin c
      fun p q => (∀ e ∈ p.events, P e) → ∀ e ∈ q.events, P e :=
    { refl := fun _ h => h
      trans := fun _ _ _ hpq hqr h => hqr (hpq h)
      askSegment := fun _ _ h => h
      mergeStatus := fun _ _ h => h
      membership := fun _ contextKey _ p h => by
        show ∀ e ∈ (Run.exec (source.askOnce contextKey) p).2.events, P e
        rw [source.events_askOnce]
        exact h }
  refine evaluate_moves_of hsegments.toIsPath (fun _ _ h => h) (inSegment_moves hsegments [])
    (fun g d f hd p hp e he => ?_) path f
  rcases List.mem_append.mp he with he | he
  · exact hp e he
  · exact List.mem_singleton.mp he ▸ h g d f hd

theorem forall_events_evaluateFor (source : Source) {P : Event → Prop}
    (h : ∀ g d f, source.environment.MayReport policy c g d →
      P (policy.event g c d .null (some f))) (f : Option Flag) :
    ∀ e ∈ (source.environment.evaluateFor policy f c).events, P e := by
  cases f with
  | none => exact List.forall_mem_nil P
  | some f => exact forall_events_evaluate source h [f.key] f .start (List.forall_mem_nil P)

/-- Every event that an evaluation reports is one of its policy. -/
theorem mem_events_evaluateFor {source : Source} {f : Option Flag} {e : Event}
    (he : e ∈ (source.environment.evaluateFor policy f c).events) :
    ∃ g d f, e = policy.event g c d .null (some f) :=
  forall_events_evaluateFor (P := fun e => ∃ g d f, e = policy.event g c d .null (some f)) source
    (fun g d f _ => ⟨g, d, f, rfl⟩) f e he

end Environment
end FeatureFlags
