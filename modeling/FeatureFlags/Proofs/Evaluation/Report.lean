import FeatureFlags.Proofs.Evaluation.Ending
import FeatureFlags.Proofs.Evaluation.Prerequisites
import FeatureFlags.Proofs.Evaluation.Progress
import FeatureFlags.Proofs.Run.Report

/-! # The events of prerequisites

A prerequisite that is checked reports what its flag, evaluated by itself, reports, and then one
event about that evaluation (`prerequisiteEvents`).

* **Which are checked** (`checked`) — the check of some prerequisites stops at the first that is not
  satisfied, which is the last one it reports about.
* **When it is aborted** (`isCircular_evaluate_iff`) — if it meets one on the way whose check is, by
  a key on the path or further down (`Completes`).
* **What is reported** (`events_evaluate`) — otherwise an evaluation reports the events of the
  prerequisites that are checked, in order.

The order of these is that of the check: a prerequisite reports before the next one is looked at,
and whatever its own prerequisites report comes before the event about itself. -/

namespace FeatureFlags

/-- The detail of an evaluation is that of its run, its errors contained, but for the health. -/
theorem Evaluation.withoutHealth_ofRun {r : Except EvaluationError Detail} {d : Detail}
    (h : Environment.contained r = .ok d)
    (hr : Outcome (fun d => d.withoutHealth = d) (fun _ => True) r) (p : Progress) :
    (Evaluation.ofRun r p).detail.withoutHealth = d := by
  cases r with
  | ok d' =>
      cases h
      exact hr
  | error e => cases e <;> cases h <;> rfl

namespace Environment

open Run

/-- An outcome that is not circular survives as a detail. -/
theorem contained_of_not_isCircular {r : Except EvaluationError Detail} (h : ¬ IsCircular r) :
    ∃ d, contained r = .ok d := by
  cases r with
  | ok d => exact ⟨d, rfl⟩
  | error e =>
      cases e
      case circularPrerequisite key => exact absurd ⟨key, rfl⟩ h
      all_goals exact ⟨_, rfl⟩

theorem isSatisfied_iff {env : Environment} {policy : EventPolicy} {c : Context}
    {p : Prerequisite} :
    ((Entries.find? p.key env.data.flags).any fun g =>
        isServed p g (env.evaluateFor policy (some g) c).detail) = true
      ↔ env.IsSatisfied policy c p := by
  rw [Option.any_eq_true]
  constructor
  · rintro ⟨g, hg, h⟩
    exact ⟨g, hg, isServed_iff.mp h⟩
  · rintro ⟨g, hg, h⟩
    exact ⟨g, hg, isServed_iff.mpr h⟩

instance (env : Environment) (policy : EventPolicy) (c : Context) (p : Prerequisite) :
    Decidable (env.IsSatisfied policy c p) :=
  decidable_of_iff _ isSatisfied_iff

/-- The events of checking a prerequisite of `f`: those of its flag, evaluated by itself, and then
one about that evaluation. There are none for a flag that is not stored. -/
def prerequisiteEvents (env : Environment) (policy : EventPolicy) (c : Context) (f : Flag)
    (p : Prerequisite) : List Event :=
  match Entries.find? p.key env.data.flags with
  | none => []
  | some g =>
    let own := env.evaluateFor policy (some g) c
    own.events ++ [policy.event g c own.detail.withoutHealth .null (some f)]

/-- The check of a prerequisite with this key, along the path, is not aborted. -/
def Completes (env : Environment) (policy : EventPolicy) (c : Context) (path : List String)
    (key : String) : Prop :=
  key ∉ path ∧ ∀ g, Entries.find? key env.data.flags = some g →
    ¬ IsCircular (exec (env.evaluate policy c (key :: path) g) .start).1

variable {source : Source} {policy : EventPolicy} {c : Context} {path : List String} {f : Flag}
  {p : Prerequisite} {ps : List Prerequisite}

/-- A flag reports along a path what it reports along that path from the start. -/
theorem evaluate_reports (source : Source) (policy : EventPolicy) (c : Context)
    (path : List String) (f : Flag) :
    Reports source (source.environment.evaluate policy c path f)
      (exec (source.environment.evaluate policy c path f) .start).1
      (exec (source.environment.evaluate policy c path f) .start).2.events :=
  (evaluate_alike source.environment_reads source.environment_reads policy c path f).reports

/-- The events of a prerequisite whose check along the path comes to the detail `d`. -/
theorem prerequisiteEvents_eq (hown : source.data.FlagsUnderOwnKeys) {g : Flag} {d : Detail}
    (hg : Entries.find? p.key source.environment.data.flags = some g)
    (hd : contained (exec (source.environment.evaluate policy c (p.key :: path) g) .start).1
      = .ok d) :
    source.environment.prerequisiteEvents policy c f p
      = (exec (source.environment.evaluate policy c (p.key :: path) g) .start).2.events
        ++ [policy.event g c d .null (some f)] := by
  have hkey : g.key = p.key := hown p.key g hg
  have hc : ¬ IsCircular
      (exec (source.environment.evaluate policy c (p.key :: path) g) .start).1 := by
    rintro ⟨key, hcirc⟩
    exact contained_eq_ok hd key hcirc
  -- By itself the flag does what it does along the path.
  have hself : exec (source.environment.evaluate policy c [g.key] g) .start
      = exec (source.environment.evaluate policy c (p.key :: path) g) .start := by
    refine evaluate_agrees ?_ g .start hc
    exact List.cons_subset.mpr ⟨hkey ▸ List.mem_cons_self, List.nil_subset _⟩
  have hdetail := source.environment.evaluate_withoutHealth policy c (p.key :: path) g .start
  rw [prerequisiteEvents, hg]
  show (source.environment.evaluateFor policy (some g) c).events ++ [policy.event g c
    (source.environment.evaluateFor policy (some g) c).detail.withoutHealth .null (some f)] = _
  rw [evaluateFor_some, hself, Evaluation.withoutHealth_ofRun hd hdetail]
  rfl

/-- A prerequisite whose check is not aborted is met if it is satisfied, and reports what its flag
reports by itself. -/
theorem isMet_reports (hown : source.data.FlagsUnderOwnKeys) (f : Flag)
    (h : source.environment.Completes policy c path p.key) :
    Reports source (source.environment.isMet policy c path f p)
      (.ok (decide (source.environment.IsSatisfied policy c p)))
      (source.environment.prerequisiteEvents policy c f p) := by
  obtain ⟨hmem, hcompletes⟩ := h
  rw [isMet, meets, if_neg hmem]
  cases hg : Entries.find? p.key source.environment.data.flags with
  | none =>
      have hunsat : ¬ source.environment.IsSatisfied policy c p := by
        rintro ⟨g, hfound, -⟩
        rw [hg] at hfound
        cases hfound
      rw [decide_eq_false hunsat, prerequisiteEvents, hg]
      exact .ask_bind _ (.pure false)
  | some g =>
      -- The flag comes to a detail, be it for an error, so the check goes on to its event.
      obtain ⟨d, hd⟩ := contained_of_not_isCircular (hcompletes g hg)
      have hflag : Reports source (contain (source.environment.evaluate policy c (p.key :: path) g))
          _ _ := (evaluate_reports source policy c (p.key :: path) g).contain
      rw [hd] at hflag
      have hserved : decide (source.environment.IsSatisfied policy c p) = isServed p g d := by
        rw [Bool.eq_iff_iff, decide_eq_true_iff]
        exact (isServed_iff_isSatisfied (hown p.key g hg) hg source.coherent_start hd).symm
      rw [prerequisiteEvents_eq hown hg hd, hserved]
      exact .ask_bind _ (hflag.bind ((Reports.report _).bind (.pure _)))

theorem isMet_reports_of_mem (f : Flag) (hmem : p.key ∈ path) :
    Reports source (source.environment.isMet policy c path f p)
      (.error (.circularPrerequisite p.key)) [] := by
  rw [isMet, meets, if_pos hmem]
  exact .throw _

/-- An abort below a prerequisite is an abort of its check, which adds nothing to it. -/
theorem isMet_reports_of_aborted (f : Flag) (hmem : p.key ∉ path) {g : Flag} {key : String}
    {events : List Event} (hg : Entries.find? p.key source.environment.data.flags = some g)
    (h : Reports source (source.environment.evaluate policy c (p.key :: path) g)
      (.error (.circularPrerequisite key)) events) :
    Reports source (source.environment.isMet policy c path f p)
      (.error (.circularPrerequisite key)) events := by
  rw [isMet, meets, if_neg hmem, hg]
  exact .ask_bind _ (h.contain.bind_error _)

/-- A check that is aborted has reported of the satisfied prerequisites before it. -/
theorem firstUnmet?_reports_of_aborted (hown : source.data.FlagsUnderOwnKeys) (f : Flag)
    {met after : List Prerequisite} {e : EvaluationError} {events : List Event}
    (hmet : ∀ q ∈ met, source.environment.IsSatisfied policy c q ∧
      source.environment.Completes policy c path q.key)
    (hp : Reports source (source.environment.isMet policy c path f p) (.error e) events) :
    Reports source (firstUnmet? (source.environment.isMet policy c path f) (met ++ p :: after))
      (.error e) (met.flatMap (source.environment.prerequisiteEvents policy c f) ++ events) := by
  induction met with
  | nil => exact hp.bind_error _
  | cons q met ih =>
      obtain ⟨⟨hsat, hcompletes⟩, hrest⟩ := List.forall_mem_cons.mp hmet
      have hq := isMet_reports hown f hcompletes
      rw [decide_eq_true hsat] at hq
      rw [List.flatMap_cons, List.append_assoc]
      exact hq.bind (ih hrest)

/-! ## A whole flag

Nothing is reported once the prerequisites are checked. -/

/-- A flag with a check that is aborted is aborted with it. -/
theorem evaluate_reports_of_aborted (hown : source.data.FlagsUnderOwnKeys) (hon : f.on = true)
    {met after : List Prerequisite} {e : EvaluationError} {events : List Event}
    (hps : f.prerequisites = met ++ p :: after)
    (hmet : ∀ q ∈ met, source.environment.IsSatisfied policy c q ∧
      source.environment.Completes policy c path q.key)
    (hp : Reports source (source.environment.isMet policy c path f p) (.error e) events) :
    Reports source (source.environment.evaluate policy c path f) (.error e)
      (met.flatMap (source.environment.prerequisiteEvents policy c f) ++ events) := by
  rw [evaluate_eq, hon, checkPrerequisites, hps]
  exact (firstUnmet?_reports_of_aborted hown f hmet hp).bind_error _

end Environment
end FeatureFlags
