import FeatureFlags.Proofs.Run.Basic

/-! # One level of an evaluation

The evaluator and the segment matcher recurse along a path of keys. Here each is written as one
level that hands the next one on: `inSegment_eq` and `evaluate_eq`.

The induction that goes with them is `Entries.induction_off_path`: a statement about every path
follows if it may be assumed of the path with one more stored key in front. A level looks at the
next one only for a stored key off its path, so two ways of going on count as the same if they agree
there (`lookUpSegment_congr`, `meets_congr`). -/

namespace FeatureFlags

/-- Induction over paths: each step may use the statement for the path that takes in one more of the
stored names. There are only finitely many names to take in. -/
theorem Entries.induction_off_path {α : Type} (es : Entries α) {motive : List String → Prop}
    (step : ∀ path, (∀ name v, name ∉ path → Entries.find? name es = some v →
      motive (name :: path)) → motive path) :
    ∀ path, motive path := by
  intro path
  induction hn : es.offPath path using Nat.strongRecOn generalizing path with
  | _ n ih =>
      apply step
      intro name v hp hs
      have hlt : es.offPath (name :: path) < n :=
        hn ▸ Entries.offPath_cons_lt hp (Entries.mem_names_of_find? hs)
      exact ih _ hlt _ rfl

namespace Environment

/-! ## Segments

Looking a segment up asks for it, whether it is stored or not. -/

/-- Look a segment up and resolve it; `path` holds the keys of the segments being looked at. -/
def lookUpSegment (env : Environment) (path : List String) (key : String)
    (resolve : Segment → Run Bool) : Run Bool :=
  if key ∈ path then throw (.circularSegment key)
  else do
    Run.ask (.segment key)
    match Entries.find? key env.data.segments with
    | none => return false
    | some s => resolve s

theorem inSegment_eq (env : Environment) (c : Context) (path : List String) (key : String) :
    env.inSegment c path key
      = env.lookUpSegment path key (env.resolveSegment (env.inSegment c (key :: path)) c) := by
  rw [inSegment, lookUpSegment]
  split
  · rfl
  · congr 1
    funext _
    split
    · next h => rw [h]
    · next s h => rw [h]

/-- Only a stored key that is not on the path is resolved. -/
theorem lookUpSegment_congr {env : Environment} {path : List String} {key : String}
    {resolve₁ resolve₂ : Segment → Run Bool}
    (h : key ∉ path → ∀ s, Entries.find? key env.data.segments = some s →
      resolve₁ s = resolve₂ s) :
    env.lookUpSegment path key resolve₁ = env.lookUpSegment path key resolve₂ := by
  unfold lookUpSegment
  by_cases hp : key ∈ path
  · rw [if_pos hp, if_pos hp]
  · rw [if_neg hp, if_neg hp]
    cases hs : Entries.find? key env.data.segments with
    | none => rfl
    | some s => simp only [h hp s hs]

/-! ## Flags

A level of a flag checks its prerequisites and then settles what it serves. -/

/-- Whether a prerequisite of `f` is met; `deeper` evaluates the flag that it names. -/
def meets (env : Environment) (policy : EventPolicy) (c : Context)
    (deeper : List String → Flag → Run Detail) (path : List String) (f : Flag) (p : Prerequisite) :
    Run Bool :=
  if p.key ∈ path then throw (.circularPrerequisite p.key)
  else do
    Run.ask (.flag p.key)
    match Entries.find? p.key env.data.flags with
    | none => return false
    | some g =>
      let d ← contain (deeper (p.key :: path) g)
      Run.report (policy.event g c d .null (some f))
      return isServed p g d

/-- Only a stored flag whose key is not on the path is evaluated. -/
theorem meets_congr {env : Environment} {policy : EventPolicy} {c : Context}
    {deeper₁ deeper₂ : List String → Flag → Run Detail} {path : List String} {f : Flag}
    {p : Prerequisite}
    (h : p.key ∉ path → ∀ g, Entries.find? p.key env.data.flags = some g →
      deeper₁ (p.key :: path) g = deeper₂ (p.key :: path) g) :
    env.meets policy c deeper₁ path f p = env.meets policy c deeper₂ path f p := by
  unfold meets
  by_cases hp : p.key ∈ path
  · rw [if_pos hp, if_pos hp]
  · rw [if_neg hp, if_neg hp]
    cases hg : Entries.find? p.key env.data.flags with
    | none => rfl
    | some g => simp only [h hp g hg]

/-- Whether a prerequisite of `f` is met. -/
def isMet (env : Environment) (policy : EventPolicy) (c : Context) (path : List String) (f : Flag)
    (p : Prerequisite) : Run Bool :=
  env.meets policy c (env.evaluate policy c) path f p

/-- The first prerequisite of a flag that is not met. -/
def checkPrerequisites (env : Environment) (policy : EventPolicy) (c : Context) (path : List String)
    (f : Flag) : Run (Option Prerequisite) :=
  firstUnmet? (env.isMet policy c path f) f.prerequisites

/-- What a flag that is on serves, once its prerequisites are checked. -/
def settle (inSegment : String → Run Bool) (c : Context) (f : Flag) :
    Option Prerequisite → Run Detail
  | some p => Run.ofExcept (f.serveOff (.plain (.prerequisiteFailed p.key)))
  | none => serveOn inSegment c f

/-- One level of `evaluate`; `deeper` evaluates the flags of the prerequisites. -/
def evaluateStep (env : Environment) (policy : EventPolicy) (c : Context)
    (deeper : List String → Flag → Run Detail) (inSegment : String → Run Bool) (path : List String)
    (f : Flag) : Run Detail :=
  if !f.on then Run.ofExcept (f.serveOff (.plain .off))
  else firstUnmet? (env.meets policy c deeper path f) f.prerequisites >>= settle inSegment c f

theorem evaluate_eq (env : Environment) (policy : EventPolicy) (c : Context) (path : List String)
    (f : Flag) :
    env.evaluate policy c path f
      = if !f.on then Run.ofExcept (f.serveOff (.plain .off))
        else env.checkPrerequisites policy c path f >>= settle (env.inSegment c []) c f := by
  rw [evaluate, checkPrerequisites]
  split
  · rfl
  · show firstUnmet? _ f.prerequisites >>= _ = _
    congr 2
    funext p
    rw [isMet, meets]
    split
    · rfl
    · congr 1
      funext _
      split
      · next h => rw [h]
      · next g h => rw [h]

theorem evaluate_eq_evaluateStep (env : Environment) (policy : EventPolicy) (c : Context)
    (path : List String) (f : Flag) :
    env.evaluate policy c path f
      = env.evaluateStep policy c (env.evaluate policy c) (env.inSegment c []) path f :=
  env.evaluate_eq policy c path f

/-! ## Whole evaluations

A whole evaluation starts with the key of its flag on the path and with nothing gathered. -/

/-- A whole evaluation is what its run comes to. -/
theorem evaluateFor_some (env : Environment) (policy : EventPolicy) (c : Context) (f : Flag) :
    env.evaluateFor policy (some f) c
      = .ofRun (Run.exec (env.evaluate policy c [f.key] f) .start).1
          (Run.exec (env.evaluate policy c [f.key] f) .start).2 :=
  rfl

end Environment

namespace Evaluation

theorem error_ofRun {r : Except EvaluationError Detail} {p : Progress}
    {e : EvaluationError} : (Evaluation.ofRun r p).error = some e ↔ r = .error e := by
  cases r with
  | ok d => exact ⟨nofun, nofun⟩
  | error e' => exact ⟨fun h => congrArg _ (Option.some.inj h), fun h => by cases h; rfl⟩

variable (r : Except EvaluationError Detail) (p : Progress)

theorem events_ofRun : (Evaluation.ofRun r p).events = p.events := by
  cases r <;> rfl

theorem queries_ofRun : (Evaluation.ofRun r p).queries = p.queries := by
  cases r <;> rfl

theorem status_ofRun : (Evaluation.ofRun r p).detail.reason.bigSegmentsStatus = p.status := by
  cases r <;> rfl

end Evaluation
end FeatureFlags
