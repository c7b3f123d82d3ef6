import FeatureFlags.Proofs.Run.Progress

/-! # What a run reports

A run of fixed effects adds the same events wherever it starts from, since reporting is one of its
effects and each adds its event at the end (`exec_start`, `Alike.reports`).

`Run.Reports` says of a run what it comes to and which events it adds. There is a rule for each way
of making a run, and what a run reports is found by putting the rules together: the events of a
second run come behind those of the first, and a run that fails ends the list. -/

namespace FeatureFlags

def Effect.event? : Effect → Option Event
  | .report e => some e
  | _ => none

namespace Source

open Run

theorem events_act (source : Source) (p : Progress) (e : Effect) :
    (source.environment.act p e).events = p.events ++ e.event?.toList := by
  cases e with
  | report e => rfl
  | ask q => exact (List.append_nil _).symm
  | learn s => exact (List.append_nil _).symm
  | consult contextKey =>
      show (exec (source.askOnce contextKey) p).2.events = p.events ++ []
      rw [events_askOnce, List.append_nil]

theorem events_foldl_act (source : Source) (es : List Effect) (p : Progress) :
    (es.foldl source.environment.act p).events = p.events ++ es.filterMap Effect.event? := by
  induction es generalizing p with
  | nil => exact (List.append_nil _).symm
  | cons e es ih =>
      rw [List.foldl_cons, ih, events_act, List.append_assoc]
      cases h : e.event? with
      | none => rw [List.filterMap_cons_none h]; rfl
      | some event => rw [List.filterMap_cons_some h]; rfl

end Source

namespace Run

variable {α β : Type} {source : Source}

/-- From every coherent progress the run comes to the outcome `r`, adds the events `es` and leaves
the progress coherent. -/
def Reports (source : Source) (m : Run α) (r : Except EvaluationError α) (es : List Event) : Prop :=
  ∀ p, source.Coherent p → (exec m p).1 = r ∧ (exec m p).2.events = p.events ++ es ∧
    source.Coherent (exec m p).2

namespace Reports

theorem ofExcept (r : Except EvaluationError α) : Reports source (Run.ofExcept r) r [] := by
  intro p hp
  rw [exec_ofExcept]
  exact ⟨rfl, (List.append_nil _).symm, hp⟩

theorem pure (a : α) : Reports source (Pure.pure a) (.ok a) [] := ofExcept (.ok a)

theorem throw (e : EvaluationError) :
    Reports source (MonadExcept.throw e : Run α) (.error e) [] :=
  ofExcept (.error e)

theorem ask (q : Query) : Reports source (Run.ask q) (.ok ()) [] :=
  fun _ hp => ⟨rfl, (List.append_nil _).symm, hp⟩

theorem report (e : Event) : Reports source (Run.report e) (.ok ()) [e] :=
  fun _ hp => ⟨rfl, rfl, hp⟩

theorem bind {m : Run α} {k : α → Run β} {a : α} {r : Except EvaluationError β}
    {es es' : List Event} (hm : Reports source m (.ok a) es) (hk : Reports source (k a) r es') :
    Reports source (m >>= k) r (es ++ es') := by
  intro p hp
  obtain ⟨houtcome, hevents, hcoherent⟩ := hm p hp
  obtain ⟨houtcome', hevents', hcoherent'⟩ := hk _ hcoherent
  rw [exec_bind_ok (Prod.ext houtcome rfl)]
  refine ⟨houtcome', ?_, hcoherent'⟩
  rw [hevents', hevents, List.append_assoc]

theorem bind_error {m : Run α} {e : EvaluationError} {es : List Event}
    (hm : Reports source m (.error e) es) (k : α → Run β) :
    Reports source (m >>= k) (.error e) es := by
  intro p hp
  obtain ⟨houtcome, hevents, hcoherent⟩ := hm p hp
  rw [exec_bind_error (Prod.ext houtcome rfl)]
  exact ⟨rfl, hevents, hcoherent⟩

theorem contain {m : Run Detail} {r : Except EvaluationError Detail} {es : List Event}
    (hm : Reports source m r es) :
    Reports source (Environment.contain m) (Environment.contained r) es := by
  intro p hp
  obtain ⟨rfl, hevents, hcoherent⟩ := hm p hp
  rw [Environment.exec_contain]
  exact ⟨rfl, hevents, hcoherent⟩

/-- A question reports nothing. -/
theorem ask_bind (q : Query) {k : Unit → Run α} {r : Except EvaluationError α} {es : List Event}
    (hk : Reports source (k ()) r es) : Reports source (Run.ask q >>= k) r es :=
  (ask q).bind hk

end Reports

/-- A run of fixed effects reports everywhere what it reports from the start. -/
theorem Alike.reports {env : Environment} {m m' : Run α}
    (h : Alike source source.environment env m m') :
    Reports source m (exec m .start).1 (exec m .start).2.events := by
  obtain ⟨r, es, hm, -⟩ := h
  intro p hp
  rw [hm p hp, hm .start source.coherent_start]
  refine ⟨rfl, ?_, source.environment_reads.foldl_act es hp⟩
  rw [source.events_foldl_act, source.events_foldl_act]
  rfl

end Run
end FeatureFlags
