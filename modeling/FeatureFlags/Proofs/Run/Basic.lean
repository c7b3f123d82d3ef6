import FeatureFlags.Evaluation.Flag

/-! # Executing a run

`Run.exec m p` is the outcome of a run that starts from the progress `p`, with the progress it
leaves behind. There is one equation for each way of making a run; later proofs rewrite with these
equations and leave the monad closed.

A run that fails keeps the progress it has made so far, and skips what comes after. The failure of a
prerequisite is contained: its flag comes to an error as its detail, and only a circular path goes
on as an error (`Environment.contained`). -/

namespace FeatureFlags

/-- Either the value of an outcome or its error has what is asked of it. -/
def Outcome {α : Type} (A : α → Prop) (E : EvaluationError → Prop) :
    Except EvaluationError α → Prop
  | .ok a => A a
  | .error e => E e

namespace Run

variable {α β : Type}

def exec (m : Run α) (p : Progress) : Except EvaluationError α × Progress := m.run.run p

@[simp] theorem exec_pure (a : α) (p : Progress) : exec (pure a) p = (.ok a, p) := rfl

@[simp] theorem exec_throw (e : EvaluationError) (p : Progress) :
    exec (throw e : Run α) p = (.error e, p) := rfl

@[simp] theorem exec_ask (q : Query) (p : Progress) :
    exec (ask q) p = (.ok (), { p with queries := p.queries ++ [q] }) := rfl

@[simp] theorem exec_report (e : Event) (p : Progress) :
    exec (report e) p = (.ok (), { p with events := p.events ++ [e] }) := rfl

@[simp] theorem exec_mergeStatus (s : BigSegmentsStatus) (p : Progress) :
    exec (mergeStatus s) p
      = (.ok (), { p with status := some ((p.status.map fun t => t.merge s).getD s) }) := rfl

@[simp] theorem exec_ofExcept (r : Except EvaluationError α) (p : Progress) :
    exec (ofExcept r) p = (r, p) := by
  cases r <;> rfl

theorem exec_bind (m : Run α) (k : α → Run β) (p : Progress) :
    exec (m >>= k) p = match exec m p with
      | (.ok a, q) => exec (k a) q
      | (.error e, q) => (.error e, q) := by
  show (ExceptT.bindCont k (m.run.run p).1) (m.run.run p).2 = _
  unfold exec
  cases m.run.run p with
  | mk r q => cases r <;> rfl

/-- A run that succeeds hands its value and its progress on. -/
theorem exec_bind_ok {m : Run α} {p q : Progress} {a : α} (h : exec m p = (.ok a, q))
    (k : α → Run β) : exec (m >>= k) p = exec (k a) q := by
  rw [exec_bind, h]

/-- A run that fails skips what comes after it. -/
theorem exec_bind_error {m : Run α} {p q : Progress} {e : EvaluationError}
    (h : exec m p = (.error e, q)) (k : α → Run β) : exec (m >>= k) p = (.error e, q) := by
  rw [exec_bind, h]

end Run

namespace Environment

open Run

/-- What is left of the outcome of a prerequisite: only a circular path remains an error. -/
def contained : Except EvaluationError Detail → Except EvaluationError Detail
  | .ok d => .ok d
  | .error (.circularPrerequisite key) => .error (.circularPrerequisite key)
  | .error e => .ok (Detail.ofError e.kind)

theorem exec_contain (m : Run Detail) (p : Progress) :
    exec (contain m) p = (contained (exec m p).1, (exec m p).2) := by
  show (ExceptT.tryCatch m _ : Run Detail) p = _
  unfold exec
  simp only [ExceptT.tryCatch, ExceptT.mk, bind, StateT.bind, ExceptT.run, StateT.run]
  cases m p with
  | mk r q =>
      cases r with
      | ok d => rfl
      | error e => cases e <;> rfl

/-- An outcome survives as a detail unless the path is circular. -/
theorem contained_eq_ok {r : Except EvaluationError Detail} {d : Detail}
    (h : contained r = .ok d) : ∀ key, r ≠ .error (.circularPrerequisite key) := by
  rintro key rfl
  cases h

/-- The only error that is left is a circular path. -/
theorem contained_eq_error {r : Except EvaluationError Detail} {e : EvaluationError}
    (h : contained r = .error e) : ∃ key, e = .circularPrerequisite key := by
  cases r with
  | ok d => cases h
  | error e' =>
      cases e'
      case circularPrerequisite key =>
        cases h
        exact ⟨key, rfl⟩
      all_goals cases h

end Environment
end FeatureFlags
