import FeatureFlags.Proofs.Evaluation.Ending

/-! # What comes first decides

A flag is looked at in a fixed order: whether it is on, its prerequisites, its targets, its rules,
and at last its fallthrough. The first that applies decides, and the reason of the answer tells
which one it was.

Nothing behind it is read: whatever else stood there, the whole evaluation would be the same, down
to its events and questions (`evaluateFor_readsNoFurther`). Among prerequisites and among rules the
same holds of those behind the one that decides. What may be replaced for each reason is
`ReadsNoFurther`. -/

namespace FeatureFlags

open Run

/-! ## Served for a reason

Serving leaves the kind of the reason alone, so it can be told before anything is served. -/

namespace Flag

theorem serve_reason (f : Flag) (index : Int64) (reason : Reason) :
    Outcome (fun d => d.reason = reason) (fun _ => True) (f.serve index reason) := by
  unfold serve
  cases f.variation? index with
  | none => trivial
  | some found => rfl

theorem serveOff_reason (f : Flag) (reason : Reason) :
    Outcome (fun d => d.reason = reason) (fun _ => True) (f.serveOff reason) := by
  unfold serveOff
  cases f.offVariation with
  | none => rfl
  | some index => exact f.serve_reason index reason

theorem serveFor_kind (f : Flag) (c : Context) (serving : Serving) (kind : ReasonKind) :
    Outcome (fun d => d.reason.kind = kind) (fun _ => True) (f.serveFor c serving kind) := by
  unfold serveFor
  cases serving.variationFor c f.key f.salt with
  | error e => trivial
  | ok served =>
      refine (f.serve_reason served.1 (.tracked kind served.2)).mono ?_ fun _ h => h
      rintro d hd
      rw [hd]
      rfl

end Flag

namespace Environment

/-! ## Where a check stops

A check along a list that stops at one of its items has gone through those before it, and the ones
behind may be any. -/

section

variable {isMet : Prerequisite → Run Bool} {before later : List Prerequisite} {r middle : Progress}

/-- A check of prerequisites that are all met goes on with those that follow. -/
theorem exec_firstUnmet?_append (h : exec (firstUnmet? isMet before) r = (.ok none, middle)) :
    exec (firstUnmet? isMet (before ++ later)) r = exec (firstUnmet? isMet later) middle := by
  induction before generalizing r with
  | nil =>
      cases h
      rfl
  | cons p before ih =>
      rw [List.cons_append, firstUnmet?, exec_bind]
      rw [firstUnmet?, exec_bind] at h
      rcases hp : exec (isMet p) r with ⟨e | met, r'⟩
      · rw [hp] at h
        cases h
      · rw [hp] at h
        cases met with
        | true => exact ih h
        | false => cases h

/-- A check comes to a prerequisite that is not met, after others that are. -/
theorem exec_firstUnmet?_some {ps : List Prerequisite} {p : Prerequisite} {q : Progress}
    (h : exec (firstUnmet? isMet ps) r = (.ok (some p), q)) :
    ∃ before after middle, ps = before ++ p :: after ∧
      exec (firstUnmet? isMet before) r = (.ok none, middle) ∧
      exec (isMet p) middle = (.ok false, q) := by
  induction ps generalizing r with
  | nil => cases h
  | cons next ps ih =>
      rw [firstUnmet?, exec_bind] at h
      rcases hnext : exec (isMet next) r with ⟨e | met, r'⟩
      · rw [hnext] at h
        cases h
      · rw [hnext] at h
        cases met with
        | true =>
            obtain ⟨before, after, middle, rfl, hbefore, hp⟩ := ih h
            exact ⟨next :: before, after, middle, rfl, (exec_bind_ok hnext _).trans hbefore, hp⟩
        | false =>
            cases h
            exact ⟨[], ps, r, rfl, rfl, hnext⟩

end

section

variable {inSegment : String → Run Bool} {c : Context} {index : Nat} {r : Progress}

/-- Rules that the context does not satisfy are passed over; their number shows in the places of
those that follow. -/
theorem exec_firstRule?_append {before later : List Rule} {middle : Progress}
    (h : exec (firstRule? inSegment c index before) r = (.ok none, middle)) :
    exec (firstRule? inSegment c index (before ++ later)) r
      = exec (firstRule? inSegment c (index + before.length) later) middle := by
  induction before generalizing index r with
  | nil =>
      cases h
      rfl
  | cons rule before ih =>
      rw [List.cons_append, firstRule?, exec_bind]
      rw [firstRule?, exec_bind] at h
      rcases hrule : exec (clausesHold inSegment c rule.clauses) r with ⟨e | holds, r'⟩
      · rw [hrule] at h
        cases h
      · rw [hrule] at h
        cases holds with
        | true => cases h
        | false =>
            rw [List.length_cons, ← Nat.add_assoc, Nat.add_right_comm]
            exact ih h

/-- The rule that is found stands behind those that were passed over. -/
theorem exec_firstRule?_some {rules : List Rule} {rule : Rule} {place : Nat} {q : Progress}
    (h : exec (firstRule? inSegment c index rules) r = (.ok (some (place, rule)), q)) :
    ∃ before after middle, rules = before ++ rule :: after ∧ place = index + before.length ∧
      exec (firstRule? inSegment c index before) r = (.ok none, middle) ∧
      exec (clausesHold inSegment c rule.clauses) middle = (.ok true, q) := by
  induction rules generalizing index r with
  | nil => cases h
  | cons next rules ih =>
      rw [firstRule?, exec_bind] at h
      rcases hnext : exec (clausesHold inSegment c next.clauses) r with ⟨e | holds, r'⟩
      · rw [hnext] at h
        cases h
      · rw [hnext] at h
        cases holds with
        | true =>
            cases h
            exact ⟨[], rules, r, rfl, rfl, rfl, hnext⟩
        | false =>
            obtain ⟨before, after, middle, rfl, rfl, hbefore, hrule⟩ := ih h
            refine ⟨next :: before, after, middle, rfl, ?_, (exec_bind_ok hnext _).trans hbefore,
              hrule⟩
            rw [List.length_cons, ← Nat.add_assoc, Nat.add_right_comm]

end

/-! ## Steps of an evaluation

What an evaluation comes to, for each way in which a check can have ended. -/

section

variable {env : Environment} {policy : EventPolicy} {c : Context} {path : List String} {f : Flag}
  {r q : Progress}

theorem exec_evaluate_off (hoff : f.on = false) :
    exec (env.evaluate policy c path f) r = (f.serveOff (.plain .off), r) := by
  rw [evaluate_eq, hoff]
  exact exec_ofExcept _ _

theorem exec_evaluate_on (hon : f.on = true) :
    exec (env.evaluate policy c path f) r
      = exec (env.checkPrerequisites policy c path f >>= settle (env.inSegment c []) c f) r := by
  rw [evaluate_eq, hon]
  rfl

theorem exec_evaluate_unmet (hon : f.on = true) {p : Prerequisite}
    (hcheck : exec (env.checkPrerequisites policy c path f) r = (.ok (some p), q)) :
    exec (env.evaluate policy c path f) r
      = (f.serveOff (.plain (.prerequisiteFailed p.key)), q) := by
  rw [exec_evaluate_on hon, exec_bind_ok hcheck, settle, exec_ofExcept]

theorem exec_evaluate_met (hon : f.on = true)
    (hcheck : exec (env.checkPrerequisites policy c path f) r = (.ok none, q)) :
    exec (env.evaluate policy c path f) r = exec (serveOn (env.inSegment c []) c f) q := by
  rw [exec_evaluate_on hon, exec_bind_ok hcheck, settle]

variable {inSegment : String → Run Bool}

theorem exec_serveOn_target {variation : Int64} (htarget : f.targetVariation? c = some variation) :
    exec (serveOn inSegment c f) r = (f.serve variation (.plain .targetMatch), r) := by
  rw [serveOn, htarget]
  exact exec_ofExcept _ _

theorem exec_serveOn_rule (htarget : f.targetVariation? c = none) {place : Nat} {rule : Rule}
    (hrule : exec (firstRule? inSegment c 0 f.rules) r = (.ok (some (place, rule)), q)) :
    exec (serveOn inSegment c f) r
      = (f.serveFor c rule.serving (.ruleMatch place rule.id), q) := by
  rw [serveOn, htarget]
  show exec (serveByRules inSegment c f) r = _
  rw [serveByRules, exec_bind_ok hrule]
  exact exec_ofExcept _ _

end

/-! ## Whole evaluations

For each reason the evaluation of the changed flag takes the same steps up to what decides. -/

/-- What may be replaced in a flag that is answered for this reason: everything behind the part that
the reason is about. The whole evaluation stays the same. -/
def ReadsNoFurther (env : Environment) (policy : EventPolicy) (c : Context) (f : Flag) :
    ReasonKind → Prop
  | .off => ∀ prerequisites targets contextTargets rules fallthrough,
      env.evaluateFor policy
          (some { f with prerequisites, targets, contextTargets, rules, fallthrough }) c
        = env.evaluateFor policy (some f) c
  | .prerequisiteFailed key => ∃ before p after, f.prerequisites = before ++ p :: after ∧
      p.key = key ∧
      (exec (env.checkPrerequisites policy c [f.key] { f with prerequisites := before }) .start).1
        = .ok none ∧
      ∀ later targets contextTargets rules fallthrough,
        env.evaluateFor policy (some { f with
            prerequisites := before ++ p :: later, targets, contextTargets, rules, fallthrough }) c
          = env.evaluateFor policy (some f) c
  | .targetMatch => ∀ rules fallthrough,
      env.evaluateFor policy (some { f with rules, fallthrough }) c
        = env.evaluateFor policy (some f) c
  | .ruleMatch index _ => ∃ before rule after, f.rules = before ++ rule :: after ∧
      before.length = index ∧
      ∀ later fallthrough,
        env.evaluateFor policy (some { f with rules := before ++ rule :: later, fallthrough }) c
          = env.evaluateFor policy (some f) c
  | .fallthrough => True
  | .error _ => True

section

variable {env : Environment} {policy : EventPolicy} {c : Context} {f : Flag}

/-- Nothing is left open about errors, so only what is served has to be looked at. -/
theorem readsNoFurther_ofRun {result : Except EvaluationError Detail} {p : Progress}
    {kind : ReasonKind}
    (hkind : Outcome (fun d => d.reason.kind = kind) (fun _ => True) result)
    (h : env.ReadsNoFurther policy c f kind) :
    env.ReadsNoFurther policy c f (Evaluation.ofRun result p).detail.reason.kind := by
  cases result with
  | ok d =>
      obtain rfl : d.reason.kind = kind := hkind
      exact h
  | error e => trivial

theorem evaluateFor_eq_of_exec {g : Flag}
    (h : exec (env.evaluate policy c [g.key] g) .start
      = exec (env.evaluate policy c [f.key] f) .start) :
    env.evaluateFor policy (some g) c = env.evaluateFor policy (some f) c := by
  rw [evaluateFor_some, evaluateFor_some, h]

theorem readsNoFurther_off (hoff : f.on = false) : env.ReadsNoFurther policy c f .off := by
  intro prerequisites targets contextTargets rules fallthrough
  refine evaluateFor_eq_of_exec ?_
  rw [exec_evaluate_off hoff]
  exact exec_evaluate_off hoff

theorem readsNoFurther_prerequisiteFailed (hon : f.on = true) {p : Prerequisite} {q : Progress}
    (hcheck : exec (env.checkPrerequisites policy c [f.key] f) .start = (.ok (some p), q)) :
    env.ReadsNoFurther policy c f (.prerequisiteFailed p.key) := by
  obtain ⟨before, after, middle, hps, hbefore, hp⟩ := exec_firstUnmet?_some hcheck
  refine ⟨before, p, after, hps, rfl, congrArg Prod.fst hbefore, ?_⟩
  intro later targets contextTargets rules fallthrough
  -- A check reads nothing of the flag but its prerequisites and, for the events, its key.
  have hlater : exec (firstUnmet? (env.isMet policy c [f.key] f) (before ++ p :: later)) .start
      = (.ok (some p), q) := by
    rw [exec_firstUnmet?_append hbefore, firstUnmet?, exec_bind_ok hp]
    rfl
  let g : Flag := { f with
    prerequisites := before ++ p :: later, targets, contextTargets, rules, fallthrough }
  refine evaluateFor_eq_of_exec (g := g) ?_
  rw [exec_evaluate_unmet hon hcheck]
  exact exec_evaluate_unmet (f := g) hon hlater

section

variable (hon : f.on = true) {q : Progress}
  (hcheck : exec (env.checkPrerequisites policy c [f.key] f) .start = (.ok none, q))

include hon hcheck

theorem readsNoFurther_targetMatch {variation : Int64}
    (htarget : f.targetVariation? c = some variation) :
    env.ReadsNoFurther policy c f .targetMatch := by
  intro rules fallthrough
  let g : Flag := { f with rules, fallthrough }
  refine evaluateFor_eq_of_exec (g := g) ?_
  rw [exec_evaluate_met hon hcheck, exec_serveOn_target htarget]
  exact (exec_evaluate_met (f := g) hon hcheck).trans (exec_serveOn_target (f := g) htarget)

theorem readsNoFurther_ruleMatch (htarget : f.targetVariation? c = none) {place : Nat} {rule : Rule}
    {q' : Progress}
    (hrule : exec (firstRule? (env.inSegment c []) c 0 f.rules) q
      = (.ok (some (place, rule)), q')) :
    env.ReadsNoFurther policy c f (.ruleMatch place rule.id) := by
  obtain ⟨before, after, middle, hrules, rfl, hbefore, hholds⟩ := exec_firstRule?_some hrule
  refine ⟨before, rule, after, hrules, (Nat.zero_add _).symm, ?_⟩
  intro later fallthrough
  have hlater : exec (firstRule? (env.inSegment c []) c 0 (before ++ rule :: later)) q
      = (.ok (some (0 + before.length, rule)), q') := by
    rw [exec_firstRule?_append hbefore, firstRule?, exec_bind_ok hholds]
    rfl
  let g : Flag := { f with rules := before ++ rule :: later, fallthrough }
  refine evaluateFor_eq_of_exec (g := g) ?_
  rw [exec_evaluate_met hon hcheck, exec_serveOn_rule htarget hrule]
  exact (exec_evaluate_met (f := g) hon hcheck).trans (exec_serveOn_rule (f := g) htarget hlater)

/-- Once the prerequisites are met, the answer depends on the targets, then on the rules. -/
theorem readsNoFurther_met :
    env.ReadsNoFurther policy c f (env.evaluateFor policy (some f) c).detail.reason.kind := by
  rw [evaluateFor_some, exec_evaluate_met hon hcheck]
  cases htarget : f.targetVariation? c with
  | some variation =>
      rw [exec_serveOn_target htarget]
      refine readsNoFurther_ofRun ?_ (readsNoFurther_targetMatch hon hcheck htarget)
      exact (f.serve_reason variation _).mono (fun d hd => congrArg Reason.kind hd) fun _ h => h
  | none =>
      -- The search for a rule fails, comes to an end without one, or finds one.
      rcases hrule : exec (firstRule? (env.inSegment c []) c 0 f.rules) q
        with ⟨e | _ | ⟨place, rule⟩, q'⟩
      · have hserve : exec (serveOn (env.inSegment c []) c f) q = (.error e, q') := by
          rw [serveOn, htarget]
          exact exec_bind_error hrule _
        rw [hserve]
        trivial
      · have hserve : exec (serveOn (env.inSegment c []) c f) q
            = (f.serveFor c f.fallthrough .fallthrough, q') := by
          rw [serveOn, htarget]
          exact (exec_bind_ok hrule _).trans (exec_ofExcept _ _)
        rw [hserve]
        exact readsNoFurther_ofRun (f.serveFor_kind c f.fallthrough .fallthrough) trivial
      · rw [exec_serveOn_rule htarget hrule]
        exact readsNoFurther_ofRun (f.serveFor_kind c rule.serving _)
          (readsNoFurther_ruleMatch hon hcheck htarget hrule)

end

end

/-- **What comes first decides.** Behind the part of a flag that decides its answer nothing is read:
whatever is put in the place of the later parts, the whole evaluation stays the same. -/
theorem evaluateFor_readsNoFurther (env : Environment) (policy : EventPolicy) (c : Context)
    (f : Flag) :
    env.ReadsNoFurther policy c f (env.evaluateFor policy (some f) c).detail.reason.kind := by
  cases hon : f.on with
  | false =>
      rw [evaluateFor_some, exec_evaluate_off hon]
      refine readsNoFurther_ofRun ?_ (readsNoFurther_off hon)
      exact (f.serveOff_reason _).mono (fun d hd => congrArg Reason.kind hd) fun _ h => h
  | true =>
      -- The check is aborted, or it lets the flag through, or it comes to a prerequisite.
      rcases hcheck : exec (env.checkPrerequisites policy c [f.key] f) .start
        with ⟨e | _ | p, q⟩
      · rw [evaluateFor_some, exec_evaluate_on hon, exec_bind_error hcheck]
        trivial
      · exact readsNoFurther_met hon hcheck
      · rw [evaluateFor_some, exec_evaluate_unmet hon hcheck]
        refine readsNoFurther_ofRun ?_ (readsNoFurther_prerequisiteFailed hon hcheck)
        exact (f.serveOff_reason _).mono (fun d hd => congrArg Reason.kind hd) fun _ h => h

/-- A prerequisite on the flag itself is not noticed behind one that is not stored. -/
example :
    let f : Flag := .named "f" [⟨"unstored", 0⟩, ⟨"f", 0⟩]
    let env : Environment := ⟨⟨[("f", f)], []⟩, fun _ => pure none⟩
    (env.evaluateFor default (some f) ⟨[("key", .string "u")], true⟩).detail.reason.kind
      = .prerequisiteFailed "unstored" := by
  decide +kernel

end Environment
end FeatureFlags
