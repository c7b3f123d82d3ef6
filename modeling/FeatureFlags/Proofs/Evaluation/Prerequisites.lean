import FeatureFlags.Proofs.Evaluation.Effect
import FeatureFlags.Proofs.Evaluation.Graph
import FeatureFlags.Proofs.Evaluation.Path

/-! # The gate of the prerequisites

A prerequisite is checked in the middle of a run: along a path, with memberships remembered and
events gathered, and with its errors swallowed. All the same it is met exactly when its flag, taken
by itself, serves the variation asked for (`exec_isMet`).

* **The path** makes no difference unless it makes a prerequisite circular (`evaluate_agrees`),
  which would abort the check.
* **What has been gathered** makes none as long as it is coherent (`evaluate_outcome_eq`).
* **Errors** of the flag leave a detail without a variation, and so does its evaluation by itself.

So the check comes to the first prerequisite that is not satisfied in this sense (`IsFirstUnmet`),
and a flag that is stopped by it serves what it serves when it is off. That flags stand under their
own keys (`DataSet.FlagsUnderOwnKeys`) is needed because a flag taken by itself has its own key on
its path. -/

namespace FeatureFlags

/-- Every flag is stored under its own key. -/
def DataSet.FlagsUnderOwnKeys (d : DataSet) : Prop :=
  ∀ key f, Entries.find? key d.flags = some f → f.key = key

/-- What an evaluation serves is told by its outcome, its errors contained. -/
theorem Evaluation.variationIndex_ofRun {r : Except EvaluationError Detail} {d : Detail}
    (h : Environment.contained r = .ok d) (p : Progress) :
    (Evaluation.ofRun r p).detail.variationIndex = d.variationIndex := by
  cases r with
  | ok d' =>
      cases h
      rfl
  | error e => cases e <;> cases h <;> rfl

namespace Environment

open Run

/-- The flag of the prerequisite is stored and on, and evaluated by itself it serves the variation
asked for. -/
def IsSatisfied (env : Environment) (policy : EventPolicy) (c : Context) (p : Prerequisite) :
    Prop :=
  ∃ g, Entries.find? p.key env.data.flags = some g ∧ g.on = true ∧
    ∃ i : Nat, (env.evaluateFor policy (some g) c).detail.variationIndex = some i ∧
      (i : Int) = p.variation.toInt

theorem isServed_iff {p : Prerequisite} {g : Flag} {d : Detail} :
    isServed p g d = true
      ↔ g.on = true ∧ ∃ i : Nat, d.variationIndex = some i ∧ (i : Int) = p.variation.toInt := by
  unfold isServed
  cases d.variationIndex <;> simp

variable {source : Source} {policy : EventPolicy} {c : Context}

/-- A flag that is evaluated as a prerequisite comes to what it comes to by itself. -/
theorem evaluate_outcome_eq {path : List String} {g : Flag} {p : Progress} (hg : g.key ∈ path)
    (hp : source.Coherent p)
    (hc : ¬ IsCircular (exec (source.environment.evaluate policy c path g) p).1) :
    (exec (source.environment.evaluate policy c [g.key] g) .start).1
      = (exec (source.environment.evaluate policy c path g) p).1 := by
  have hreads := source.environment_reads
  have hsub : [g.key] ⊆ path := List.cons_subset.mpr ⟨hg, List.nil_subset path⟩
  calc (exec (source.environment.evaluate policy c [g.key] g) .start).1
      = (exec (source.environment.evaluate policy c [g.key] g) p).1 :=
        (evaluate_alike hreads hreads policy c [g.key] g).outcome_eq source.coherent_start hp
    _ = (exec (source.environment.evaluate policy c path g) p).1 := by
        rw [evaluate_agrees hsub g p hc]

/-- What is contained of the evaluation of a flag tells whether a prerequisite on it is met. -/
theorem isServed_iff_isSatisfied {path : List String} {g : Flag} {pr : Prerequisite} {d : Detail}
    {p : Progress} (hkey : g.key = pr.key) (hg : Entries.find? pr.key source.data.flags = some g)
    (hp : source.Coherent p)
    (hd : contained
      (exec (source.environment.evaluate policy c (pr.key :: path) g) p).1 = .ok d) :
    isServed pr g d = true ↔ source.environment.IsSatisfied policy c pr := by
  have hc : ¬ IsCircular (exec (source.environment.evaluate policy c (pr.key :: path) g) p).1 := by
    rintro ⟨key, hcirc⟩
    exact contained_eq_ok hd key hcirc
  have hmem : g.key ∈ pr.key :: path := hkey ▸ List.mem_cons_self
  have hself : (source.environment.evaluateFor policy (some g) c).detail.variationIndex
      = d.variationIndex := by
    refine Evaluation.variationIndex_ofRun ?_ _
    show contained (exec (source.environment.evaluate policy c [g.key] g) .start).1 = .ok d
    rw [evaluate_outcome_eq hmem hp hc, hd]
  rw [isServed_iff, ← hself]
  constructor
  · intro h
    exact ⟨g, hg, h⟩
  · rintro ⟨g', hg', h⟩
    have hsame : g = g' := Option.some.inj (hg.symm.trans hg')
    exact hsame ▸ h

/-- A check that is not aborted tells whether the prerequisite is satisfied. -/
theorem exec_isMet (hown : source.data.FlagsUnderOwnKeys) {path : List String} {f : Flag}
    {pr : Prerequisite} {p : Progress} (hp : source.Coherent p)
    (hc : ¬ IsCircular (exec (source.environment.isMet policy c path f pr) p).1) :
    ∃ met, (exec (source.environment.isMet policy c path f pr) p).1 = .ok met ∧
      (met = true ↔ source.environment.IsSatisfied policy c pr) := by
  rw [isMet, meets] at hc ⊢
  by_cases hmem : pr.key ∈ path
  · rw [if_pos hmem] at hc
    exact absurd ⟨pr.key, rfl⟩ hc
  · rw [if_neg hmem] at hc ⊢
    cases hg : Entries.find? pr.key source.environment.data.flags with
    | none =>
        refine ⟨false, rfl, ?_⟩
        constructor
        · intro h
          cases h
        · rintro ⟨g, hfound, -⟩
          rw [hg] at hfound
          cases hfound
    | some g =>
        rw [hg] at hc
        -- The flag is asked for first, which leaves the remembered memberships as they are.
        rw [exec_bind_ok (exec_ask _ p)] at hc ⊢
        have hq : source.Coherent { p with queries := p.queries ++ [.flag pr.key] } :=
          hp.of_memberships_eq rfl
        cases hd : contained (exec (source.environment.evaluate policy c (pr.key :: path) g)
            { p with queries := p.queries ++ [.flag pr.key] }).1 with
        | error e =>
            obtain ⟨key, rfl⟩ := contained_eq_error hd
            refine absurd ⟨key, ?_⟩ hc
            rw [exec_bind, exec_contain, hd]
        | ok d =>
            refine ⟨isServed pr g d, ?_, isServed_iff_isSatisfied (hown pr.key g hg) hg hq hd⟩
            rw [exec_bind, exec_contain, hd]
            rfl

/-- What the check of some prerequisites may come to: none of them, if all are satisfied, and else
the first that is not. -/
def IsFirstUnmet (satisfied : Prerequisite → Prop) (ps : List Prerequisite) :
    Option Prerequisite → Prop
  | none => ∀ p ∈ ps, satisfied p
  | some p =>
      ∃ before after, ps = before ++ p :: after ∧ (∀ q ∈ before, satisfied q) ∧ ¬ satisfied p

/-- A check that is not aborted comes to the first prerequisite that is not satisfied. -/
theorem exec_firstUnmet? (hown : source.data.FlagsUnderOwnKeys) {path : List String} {f : Flag}
    {ps : List Prerequisite} {p : Progress} (hp : source.Coherent p)
    (hc : ¬ IsCircular (exec (firstUnmet? (source.environment.isMet policy c path f) ps) p).1) :
    ∃ unmet, (exec (firstUnmet? (source.environment.isMet policy c path f) ps) p).1 = .ok unmet ∧
      IsFirstUnmet (source.environment.IsSatisfied policy c) ps unmet := by
  induction ps generalizing p with
  | nil => exact ⟨none, rfl, fun _ h => by cases h⟩
  | cons pr ps ih =>
      have hmet : ¬ IsCircular (exec (source.environment.isMet policy c path f pr) p).1 := by
        rintro ⟨key, hkey⟩
        refine hc ⟨key, ?_⟩
        rw [firstUnmet?, exec_bind_error (Prod.ext hkey rfl)]
      obtain ⟨met, hrun, hiff⟩ := exec_isMet hown hp hmet
      rw [firstUnmet?, exec_bind_ok (Prod.ext hrun rfl)] at hc ⊢
      cases met with
      | false =>
          refine ⟨some pr, rfl, [], ps, rfl, ?_, fun hsat => ?_⟩
          · intro q hq
            cases hq
          · exact absurd (hiff.mpr hsat) Bool.false_ne_true
      | true =>
          -- The rest is checked with what the first check has gathered, which is still coherent.
          have hreads := source.environment_reads
          have hkeep := (isMet_alike hreads hreads policy c path f pr).coherent hreads hp
          have hsat := hiff.mp rfl
          obtain ⟨unmet, hrest, hfirst⟩ := ih hkeep hc
          refine ⟨unmet, hrest, ?_⟩
          cases unmet with
          | none => exact List.forall_mem_cons.mpr ⟨hsat, hfirst⟩
          | some u =>
              obtain ⟨before, after, rfl, hbefore, hu⟩ := hfirst
              exact ⟨pr :: before, after, rfl, List.forall_mem_cons.mpr ⟨hsat, hbefore⟩, hu⟩

/-- The check of a flag whose evaluation is not aborted is not aborted either. -/
theorem not_isCircular_checkPrerequisites {f : Flag} (hon : f.on = true)
    (hc : ∀ key, (source.environment.evaluateFor policy (some f) c).error
      ≠ some (.circularPrerequisite key)) :
    ¬ IsCircular (exec (source.environment.checkPrerequisites policy c [f.key] f) .start).1 := by
  rintro ⟨key, hkey⟩
  refine hc key ?_
  have hrun : (exec (source.environment.evaluate policy c [f.key] f) .start).1
      = .error (.circularPrerequisite key) := by
    rw [evaluate_eq, hon]
    show (exec (_ >>= settle (source.environment.inSegment c []) c f) .start).1 = _
    rw [exec_bind_error (Prod.ext hkey rfl)]
  rw [evaluateFor_some, hrun]
  rfl

end Environment

/-! ## The gate

What a flag serves when it is stopped differs from what it serves when it is off in the reason
only. -/

/-- The evaluation serves what `off` does; but where `off` is off, it names an unmet prerequisite as
its reason. -/
structure Evaluation.IsStoppedAt (e off : Evaluation) (key : String) : Prop where
  value : e.detail.value = off.detail.value
  variationIndex : e.detail.variationIndex = off.detail.variationIndex
  error : e.error = off.error
  inExperiment : e.detail.reason.inExperiment = off.detail.reason.inExperiment
  reason : e.detail.reason.kind
    = if off.detail.reason.kind = .off then .prerequisiteFailed key else off.detail.reason.kind

theorem Flag.serveOff_isStoppedAt (f : Flag) (key : String) (p q : Progress) :
    (Evaluation.ofRun (f.serveOff (.plain (.prerequisiteFailed key))) p).IsStoppedAt
      (.ofRun (f.serveOff (.plain .off)) q) key := by
  unfold Flag.serveOff
  cases f.offVariation with
  | none => exact ⟨rfl, rfl, rfl, rfl, (if_pos rfl).symm⟩
  | some index =>
      show (Evaluation.ofRun (f.serve index _) p).IsStoppedAt (.ofRun (f.serve index _) q) key
      unfold Flag.serve
      cases f.variation? index with
      | none => exact ⟨rfl, rfl, rfl, rfl, (if_neg (by rintro ⟨⟩)).symm⟩
      | some found => exact ⟨rfl, rfl, rfl, rfl, (if_pos rfl).symm⟩

open Run in
/-- **The gate of the prerequisites.** Unless the evaluation is aborted as circular, the check of
the prerequisites lets a flag through exactly when each of them, evaluated by itself, is satisfied.
Else it names the first one that is not, and the flag serves what it serves when it is off. -/
theorem Environment.checkPrerequisites_gate (source : Source) (policy : EventPolicy) (c : Context)
    (f : Flag) (hown : source.data.FlagsUnderOwnKeys) (hon : f.on = true)
    (hc : ∀ key, (source.environment.evaluateFor policy (some f) c).error
      ≠ some (.circularPrerequisite key)) :
    ∃ unmet,
      (exec (source.environment.checkPrerequisites policy c [f.key] f) .start).1 = .ok unmet ∧
      (unmet = none ↔ ∀ p ∈ f.prerequisites, source.environment.IsSatisfied policy c p) ∧
      ∀ p, unmet = some p →
        (∃ before after, f.prerequisites = before ++ p :: after ∧
          (∀ q ∈ before, source.environment.IsSatisfied policy c q) ∧
          ¬ source.environment.IsSatisfied policy c p) ∧
        (source.environment.evaluateFor policy (some f) c).IsStoppedAt
          (source.environment.evaluateFor policy (some { f with on := false }) c) p.key := by
  have hcheck := not_isCircular_checkPrerequisites hon hc
  obtain ⟨unmet, hrun, hfirst⟩ : ∃ unmet,
      (exec (source.environment.checkPrerequisites policy c [f.key] f) .start).1 = .ok unmet ∧
        IsFirstUnmet (source.environment.IsSatisfied policy c) f.prerequisites unmet :=
    exec_firstUnmet? hown source.coherent_start hcheck
  refine ⟨unmet, hrun, ?_, ?_⟩
  · cases unmet with
    | none => exact ⟨fun _ => hfirst, fun _ => rfl⟩
    | some p =>
        obtain ⟨before, after, hps, -, hp⟩ := hfirst
        constructor
        · intro h
          cases h
        · intro hall
          exact absurd (hall p (by rw [hps]; simp)) hp
  · rintro p rfl
    refine ⟨hfirst, ?_⟩
    have hstopped : exec (source.environment.evaluate policy c [f.key] f) .start
        = (f.serveOff (.plain (.prerequisiteFailed p.key)),
          (exec (source.environment.checkPrerequisites policy c [f.key] f) .start).2) := by
      rw [evaluate_eq, hon]
      show exec (_ >>= settle (source.environment.inSegment c []) c f) .start = _
      rw [exec_bind_ok (Prod.ext hrun rfl), settle, exec_ofExcept]
    have hoff : exec (source.environment.evaluate policy c [f.key] { f with on := false }) .start
        = (f.serveOff (.plain .off), .start) := by
      rw [evaluate_eq]
      exact exec_ofExcept _ _
    rw [evaluateFor_some, evaluateFor_some, hstopped, hoff]
    exact f.serveOff_isStoppedAt p.key _ _

/-- A flag with a prerequisite that is satisfied is stopped by the next one, which is not stored. -/
theorem Environment.checkPrerequisites_gate_unstored :
    let source : Source := ⟨⟨[("stored", .named "stored" [])], []⟩, fun _ => none⟩
    let f : Flag := .named "f" [⟨"stored", 0⟩, ⟨"unstored", 0⟩]
    let c : Context := ⟨[("key", .string "u")], true⟩
    source.data.FlagsUnderOwnKeys ∧ f.on = true ∧
      (∀ key, (source.environment.evaluateFor default (some f) c).error
        ≠ some (.circularPrerequisite key)) ∧
      source.environment.IsSatisfied default c ⟨"stored", 0⟩ ∧
      ¬ source.environment.IsSatisfied default c ⟨"unstored", 0⟩ ∧
      (source.environment.evaluateFor default (some f) c).IsStoppedAt
        (source.environment.evaluateFor default (some { f with on := false }) c) "unstored" := by
  intro source f c
  have hown : source.data.FlagsUnderOwnKeys := by
    intro key g hg
    rw [Entries.find?_cons] at hg
    split at hg
    · next hkey =>
        cases hg
        exact hkey
    · cases hg
  have hc : ∀ key, (source.environment.evaluateFor default (some f) c).error
      ≠ some (.circularPrerequisite key) := by
    intro key
    have hnone : (source.environment.evaluateFor default (some f) c).error = none := by
      decide +kernel
    rw [hnone]
    rintro ⟨⟩
  have hcheck : (Run.exec (source.environment.checkPrerequisites default c [f.key] f) .start).1
      = .ok (some ⟨"unstored", 0⟩) := by decide +kernel
  obtain ⟨unmet, hrun, -, hstop⟩ := checkPrerequisites_gate source default c f hown rfl hc
  rw [hcheck] at hrun
  obtain ⟨⟨-, -, -, -, hunmet⟩, hstopped⟩ := hstop _ (Except.ok.inj hrun).symm
  exact ⟨hown, rfl, hc, ⟨_, rfl, rfl, 0, by decide +kernel, rfl⟩, hunmet, hstopped⟩

end FeatureFlags
