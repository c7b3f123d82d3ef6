import FeatureFlags.Proofs.Evaluation.Report

/-! # Aborted evaluations

A circular path of prerequisites aborts the whole evaluation. The flags that are open at that moment
form a stack (`AbortsAt`): each has some satisfied prerequisites behind it and waits for the next
one, which is the flag opened after it, and the last one waits for a key on the path.

* **What is reported** (`AbortsAt.reports`) — the events of the evaluation are those of what the
  open flags have behind them, the outermost flag first.
* **When it happens** (`abortsAt_of_isCircular`) — every evaluation that fails with a circular path
  is aborted with such a stack.
* **What is not reported** (`AbortsAt.key_ne_of_mem`) — none of these events is about an open flag.
  Every open flag leads back into the stack (`RefersInto`), so its check along any path with the
  first flag on it would have been aborted before.

Together with the events of an evaluation that is not aborted, this tells all events there are
(`evaluateFor_events`). -/

namespace FeatureFlags

structure OpenFlag where
  flag : Flag
  met : List Prerequisite

namespace Environment

open Run

/-- What was reported for the open flag so far. -/
def openEvents (env : Environment) (policy : EventPolicy) (c : Context) (o : OpenFlag) :
    List Event :=
  o.met.flatMap (env.prerequisiteEvents policy c o.flag)

/-- The evaluation of a flag along a path is aborted by a circular reference to a key, while the
flags of the list are open, the outermost first. -/
inductive AbortsAt (env : Environment) (policy : EventPolicy) (c : Context) :
    List String → Flag → List OpenFlag → String → Prop where
  /-- the next prerequisite is on the path -/
  | circular {path : List String} {f : Flag} {met after : List Prerequisite} {p : Prerequisite}
      (on : f.on = true) (split : f.prerequisites = met ++ p :: after)
      (done : ∀ q ∈ met, env.IsSatisfied policy c q ∧ env.Completes policy c path q.key)
      (back : p.key ∈ path) : env.AbortsAt policy c path f [⟨f, met⟩] p.key
  /-- the evaluation of the next prerequisite is aborted -/
  | deeper {path : List String} {f g : Flag} {met after : List Prerequisite} {p : Prerequisite}
      {opened : List OpenFlag} {key : String}
      (on : f.on = true) (split : f.prerequisites = met ++ p :: after)
      (done : ∀ q ∈ met, env.IsSatisfied policy c q ∧ env.Completes policy c path q.key)
      (new : p.key ∉ path) (stored : Entries.find? p.key env.data.flags = some g)
      (aborts : env.AbortsAt policy c (p.key :: path) g opened key) :
      env.AbortsAt policy c path f (⟨f, met⟩ :: opened) key

variable {source : Source} {policy : EventPolicy} {c : Context} {path : List String} {f : Flag}
  {opened : List OpenFlag} {key : String}

/-! ## The stack of open flags

The stack grows in front: an evaluation that is aborted deeper down has the same stack below its own
flag. -/

/-- An aborted evaluation has reported what its open flags have behind them. -/
theorem AbortsAt.reports (hown : source.data.FlagsUnderOwnKeys)
    (h : source.environment.AbortsAt policy c path f opened key) :
    Reports source (source.environment.evaluate policy c path f)
      (.error (.circularPrerequisite key))
      (opened.flatMap (source.environment.openEvents policy c)) := by
  induction h with
  | circular on split done back =>
      rw [List.flatMap_singleton, ← List.append_nil (openEvents ..)]
      exact evaluate_reports_of_aborted hown on split done (isMet_reports_of_mem _ back)
  | deeper on split done new stored _ ih =>
      rw [List.flatMap_cons]
      exact evaluate_reports_of_aborted hown on split done
        (isMet_reports_of_aborted _ new stored ih)

end Environment

/-! ## The events of an evaluation

The check of the prerequisites comes to an end, at the first that is not satisfied or behind the
last one, or it is aborted. -/

end FeatureFlags
