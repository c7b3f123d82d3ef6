import FeatureFlags.Proofs.Evaluation.Ending

/-! # Answers that hang together

Whatever it is asked for, an evaluation answers with a detail whose parts agree with each other,
with the error beside it and with the flag (`Evaluation.Consistent`).

* **Errors** — the reason is an error exactly if there is one, of the same kind, and then nothing is
  served. Whether there is a context and a flag at all can be read off its kind.
* **Values** — a variation that is served is the one at its place in the flag. Where none is served,
  the value is null and the flag is off, lacks a prerequisite, or has failed.
* **Reasons** — the rule and the prerequisite that a reason names belong to the flag, and only a
  rule or the fallthrough speaks of an experiment.

The argument follows what a flag serves: a variation of it, or nothing for lack of an off variation,
and for a reason that speaks of the flag's own rules and prerequisites (`Detail.Fits`). -/

namespace FeatureFlags

open Run (Ends)

/-! ## What a flag serves

Each kind of reason fits the flag for its own cause, and serving a variation adds nothing but the
variation. -/

structure Reason.Fits (r : Reason) (f : Flag) : Prop where
  noError : r.isError = false
  ruleMatch : ∀ index id, r.kind = .ruleMatch index id →
    ∃ rule, f.rules[index]? = some rule ∧ rule.id = id
  prerequisiteFailed : ∀ key, r.kind = .prerequisiteFailed key → key ∈ f.prerequisiteKeys
  inExperiment : r.inExperiment = true →
    r.kind = .fallthrough ∨ ∃ index id, r.kind = .ruleMatch index id

structure Detail.Fits (d : Detail) (f : Flag) : Prop where
  reason : d.reason.Fits f
  served : ∀ place, d.variationIndex = some place → f.variations[place]? = some d.value
  unserved : d.variationIndex = none →
    d.value = .null ∧ (d.reason.kind = .off ∨ ∃ key, d.reason.kind = .prerequisiteFailed key)

namespace Reason

variable {f : Flag}

theorem fits_off : (plain .off).Fits f where
  noError := rfl
  ruleMatch := nofun
  prerequisiteFailed := nofun
  inExperiment := nofun

theorem fits_targetMatch : (plain .targetMatch).Fits f where
  noError := rfl
  ruleMatch := nofun
  prerequisiteFailed := nofun
  inExperiment := nofun

theorem fits_prerequisiteFailed {p : Prerequisite} (h : p ∈ f.prerequisites) :
    (plain (.prerequisiteFailed p.key)).Fits f where
  noError := rfl
  ruleMatch := nofun
  prerequisiteFailed := by
    rintro _ ⟨⟩
    exact List.mem_map_of_mem h
  inExperiment := nofun

theorem fits_fallthrough (inExperiment : Bool) : (tracked .fallthrough inExperiment).Fits f where
  noError := rfl
  ruleMatch := nofun
  prerequisiteFailed := nofun
  inExperiment := fun _ => .inl rfl

theorem fits_ruleMatch {index : Nat} {rule : Rule} (h : f.rules[index]? = some rule)
    (inExperiment : Bool) : (tracked (.ruleMatch index rule.id) inExperiment).Fits f where
  noError := rfl
  ruleMatch := by
    rintro _ _ ⟨⟩
    exact ⟨rule, h, rfl⟩
  prerequisiteFailed := nofun
  inExperiment := fun _ => .inr ⟨index, rule.id, rfl⟩

end Reason

namespace Flag

variable {f : Flag} {reason : Reason}

theorem getElem?_of_variation? {index : Int64} {place : Nat} {v : Json}
    (h : f.variation? index = some (place, v)) : f.variations[place]? = some v := by
  unfold variation? at h
  split at h
  · cases h
  · obtain ⟨w, hw, hpair⟩ := Option.map_eq_some_iff.mp h
    cases hpair
    exact hw

theorem serve_fits (index : Int64) (h : reason.Fits f) :
    Outcome (Detail.Fits · f) EvaluationError.IsLocal (f.serve index reason) := by
  unfold serve
  cases hv : f.variation? index with
  | none => trivial
  | some found =>
      refine ⟨h, ?_, nofun⟩
      rintro _ ⟨⟩
      exact getElem?_of_variation? hv

/-- Nothing is served only where there is no off variation. -/
theorem serveOff_fits (h : reason.Fits f)
    (hkind : reason.kind = .off ∨ ∃ key, reason.kind = .prerequisiteFailed key) :
    Outcome (Detail.Fits · f) EvaluationError.IsLocal (f.serveOff reason) := by
  unfold serveOff
  cases f.offVariation with
  | none => exact ⟨h, nofun, fun _ => ⟨rfl, hkind⟩⟩
  | some index => exact serve_fits index h

end Flag

/-! ## Whole evaluations

An evaluation ends in a failure, or in a detail that fits the flag, with the health put into its
reason. -/

/-- What the data account for is put down to a malformed flag. -/
theorem DataSet.AccountsFor.kind_eq {d : DataSet} {f : Flag} {e : EvaluationError}
    (h : d.AccountsFor f e) : e.kind = .malformedFlag := by
  cases e with
  | invalidContext cause => exact h.elim
  | flagNotFound => exact h.elim
  | _ => rfl

/-- The parts of an answer agree with each other, with the flag and with the value that was to be a
context. -/
structure Evaluation.Consistent (e : Evaluation) (f : Option Flag) (v : Json) : Prop where
  isError_iff : e.detail.isError = true ↔ ∃ error, e.error = some error
  error : ∀ error, e.error = some error → e.detail.reason.kind = .error error.kind ∧
    e.detail.value = .null ∧ e.detail.variationIndex = none
  userNotSpecified : e.detail.reason.kind = .error .userNotSpecified ↔
    ∃ cause, Context.ofJson v = .error cause
  flagNotFound : e.detail.reason.kind = .error .flagNotFound ↔
    (∃ c, Context.ofJson v = .ok c) ∧ f = none
  served : ∀ place, e.detail.variationIndex = some place →
    ∃ g, f = some g ∧ ∃ h : place < g.variations.length, e.detail.value = g.variations[place]
  unserved : e.detail.variationIndex = none → e.detail.value = .null ∧
    (e.detail.reason.kind = .off ∨ (∃ key, e.detail.reason.kind = .prerequisiteFailed key) ∨
      e.detail.isError = true)
  ruleMatch : ∀ index id, e.detail.reason.kind = .ruleMatch index id →
    ∃ g, f = some g ∧ ∃ h : index < g.rules.length, g.rules[index].id = id
  prerequisiteFailed : ∀ key, e.detail.reason.kind = .prerequisiteFailed key →
    ∃ g, f = some g ∧ ∃ p ∈ g.prerequisites, p.key = key
  inExperiment : e.detail.reason.inExperiment = true →
    e.detail.reason.kind = .fallthrough ∨ ∃ index id, e.detail.reason.kind = .ruleMatch index id

namespace Evaluation

variable {f : Option Flag} {v : Json} {c : Context} {p : Progress}

/-- A failure is consistent if its kind tells what is wrong with the request. -/
theorem consistent_of_error {e : Evaluation} (error : EvaluationError)
    (herror : e.error = some error) (hkind : e.detail.reason.kind = .error error.kind)
    (hvalue : e.detail.value = .null) (hindex : e.detail.variationIndex = none)
    (hexperiment : e.detail.reason.inExperiment = false)
    (huser : error.kind = .userNotSpecified ↔ ∃ cause, Context.ofJson v = .error cause)
    (hflag : error.kind = .flagNotFound ↔ (∃ c, Context.ofJson v = .ok c) ∧ f = none) :
    e.Consistent f v := by
  have hisError : e.detail.isError = true := by
    unfold Detail.isError Reason.isError
    rw [hkind]
  -- All that is asked about the kind of the reason is a question about the error.
  have hcases : ∀ kind, e.detail.reason.kind = .error kind ↔ error.kind = kind := by
    intro kind
    rw [hkind]
    exact ReasonKind.error.injEq _ _ ▸ Iff.rfl
  exact {
    isError_iff := ⟨fun _ => ⟨error, herror⟩, fun _ => hisError⟩
    error := by
      intro error' h
      obtain rfl := Option.some.inj (herror.symm.trans h)
      exact ⟨hkind, hvalue, hindex⟩
    userNotSpecified := (hcases _).trans huser
    flagNotFound := (hcases _).trans hflag
    served := by
      intro place h
      rw [hindex] at h
      cases h
    unserved := fun _ => ⟨hvalue, .inr (.inr hisError)⟩
    ruleMatch := by
      intro index id h
      rw [hkind] at h
      cases h
    prerequisiteFailed := by
      intro key h
      rw [hkind] at h
      cases h
    inExperiment := by
      intro h
      rw [hexperiment] at h
      cases h }

/-- What fits the flag stays so when the health is put into its reason. -/
theorem consistent_ofRun_ok {g : Flag} {d : Detail} (h : d.Fits g) (hc : Context.ofJson v = .ok c) :
    (ofRun (.ok d) p).Consistent (some g) v := by
  have hkind : ∀ kind, d.reason.kind ≠ .error kind := by
    intro kind hk
    have hno := h.reason.noError
    unfold Reason.isError at hno
    rw [hk] at hno
    cases hno
  exact {
    isError_iff := by
      constructor
      · intro hisError
        exact absurd (h.reason.noError.symm.trans hisError) Bool.false_ne_true
      · rintro ⟨_, ⟨⟩⟩
    error := nofun
    userNotSpecified := by
      constructor
      · exact fun hk => absurd hk (hkind _)
      · rintro ⟨cause, hcause⟩
        cases hc.symm.trans hcause
    flagNotFound := ⟨fun hk => absurd hk (hkind _), fun hnone => by cases hnone.2⟩
    served := by
      intro place hplace
      obtain ⟨hlt, hget⟩ := List.getElem?_eq_some_iff.mp (h.served place hplace)
      exact ⟨g, rfl, hlt, hget.symm⟩
    unserved := fun hnone => (h.unserved hnone).imp_right (Or.imp_right .inl)
    ruleMatch := by
      intro index id hk
      obtain ⟨rule, hrule, rfl⟩ := h.reason.ruleMatch index id hk
      obtain ⟨hlt, hget⟩ := List.getElem?_eq_some_iff.mp hrule
      exact ⟨g, rfl, hlt, congrArg Rule.id hget⟩
    prerequisiteFailed := fun key hk =>
      ⟨g, rfl, List.mem_map.mp (h.reason.prerequisiteFailed key hk)⟩
    inExperiment := h.reason.inExperiment }

end Evaluation

namespace Environment

/-- What a whole evaluation serves fits the flag. -/
theorem evaluate_fits {env : Environment} (policy : EventPolicy) (c : Context) (f : Flag)
    (hmem : env.Available) :
    Ends (env.evaluate policy c [f.key] f) (Detail.Fits · f) (env.data.AccountsFor f) :=
  evaluate_ends_accounted hmem (Flag.serveOff_fits Reason.fits_off (.inl rfl))
    (fun p hp =>
      Flag.serveOff_fits (Reason.fits_prerequisiteFailed hp) (.inr ⟨p.key, rfl⟩))
    (fun variation _ => Flag.serve_fits variation Reason.fits_targetMatch)
    (fun _ rule hrule => Flag.serveFor_ends
      (fun variation inExperiment =>
        Flag.serve_fits variation (Reason.fits_ruleMatch hrule inExperiment)) c rule.serving)
    (Flag.serveFor_ends
      (fun variation inExperiment =>
        Flag.serve_fits variation (Reason.fits_fallthrough inExperiment)) c f.fallthrough)

/-- **Answers hang together.** Whatever flag, data and value an evaluation is asked for, the parts
of its answer agree. -/
theorem evaluateValue_consistent (source : Source) (policy : EventPolicy) (f : Option Flag)
    (v : Json) : (source.environment.evaluateValue policy f v).Consistent f v := by
  unfold evaluateValue
  cases hc : Context.ofJson v with
  | error cause =>
      refine Evaluation.consistent_of_error (.invalidContext cause) rfl rfl rfl rfl rfl
        ⟨fun _ => ⟨cause, hc⟩, fun _ => rfl⟩ ⟨nofun, ?_⟩
      rintro ⟨⟨c, hok⟩, -⟩
      cases hc.symm.trans hok
  | ok c =>
      have hvalid : ¬ ∃ cause, Context.ofJson v = .error cause := by
        rintro ⟨cause, hcause⟩
        cases hc.symm.trans hcause
      cases f with
      | none =>
          exact Evaluation.consistent_of_error .flagNotFound rfl rfl rfl rfl rfl
            ⟨nofun, fun h => absurd h hvalid⟩ ⟨fun _ => ⟨⟨c, hc⟩, rfl⟩, fun _ => rfl⟩
      | some g =>
          have hends : Outcome (Detail.Fits · g) (source.data.AccountsFor g)
              (Run.exec (source.environment.evaluate policy c [g.key] g) .start).1 :=
            evaluate_fits policy c g source.environment_available .start
          show (source.environment.evaluateFor policy (some g) c).Consistent (some g) v
          rw [evaluateFor_some]
          cases hrun : (Run.exec (source.environment.evaluate policy c [g.key] g) .start).1 with
          | ok d =>
              rw [hrun] at hends
              exact Evaluation.consistent_ofRun_ok hends hc
          | error e =>
              rw [hrun] at hends
              have hkind := hends.kind_eq
              refine Evaluation.consistent_of_error e rfl rfl rfl rfl rfl ?_ ?_
              · rw [hkind]
                exact ⟨nofun, fun h => absurd h hvalid⟩
              · rw [hkind]
                exact ⟨nofun, fun h => by cases h.2⟩

end Environment
end FeatureFlags
