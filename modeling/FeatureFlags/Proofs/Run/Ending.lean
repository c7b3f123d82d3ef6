import FeatureFlags.Proofs.Run.Basic
import FeatureFlags.Proofs.Run.Effect

/-! # How a run may end

`Run.Ends m A E` says that, wherever the run `m` starts from, a value that it comes to has `A` and
an error that it fails with has `E`. There is a rule for each way of making a run, so that the
evaluator is followed function by function; with `E` false throughout, a run always succeeds.

What is known of a value may be carried on (`bind`), and forgotten where it is not needed (`mono`).
A walk along a list says nothing of its value, but fails only in ways in which its items fail. -/

namespace FeatureFlags
namespace Run

variable {α β : Type} {A : α → Prop} {B : β → Prop} {E : EvaluationError → Prop}

def Ends (m : Run α) (A : α → Prop) (E : EvaluationError → Prop) : Prop :=
  ∀ p, Outcome A E (exec m p).1

namespace Ends

theorem ofExcept {r : Except EvaluationError α} (h : Outcome A E r) :
    Ends (Run.ofExcept r) A E := by
  intro p
  rw [exec_ofExcept]
  exact h

theorem pure {a : α} (h : A a) : Ends (Pure.pure a) A E := fun _ => h

theorem throw {e : EvaluationError} (h : E e) : Ends (MonadExcept.throw e : Run α) A E :=
  fun _ => h

theorem bind {m : Run α} {k : α → Run β} (hm : Ends m A E) (hk : ∀ a, A a → Ends (k a) B E) :
    Ends (m >>= k) B E := by
  intro p
  have h := hm p
  rw [exec_bind]
  rcases hr : exec m p with ⟨r, q⟩
  rw [hr] at h
  cases r with
  | ok a => exact hk a h q
  | error e => exact h

theorem mono {A' : α → Prop} {E' : EvaluationError → Prop} {m : Run α} (h : Ends m A E)
    (hA : ∀ a, A a → A' a) (hE : ∀ e, E e → E' e) : Ends m A' E' := by
  intro p
  have hp := h p
  cases hr : (exec m p).1 with
  | ok a => exact hA a (by rwa [hr] at hp)
  | error e => exact hE e (by rwa [hr] at hp)

theorem anyhow (m : Run α) : Ends m (fun _ => True) (fun _ => True) := by
  intro p
  cases (exec m p).1 <;> trivial

/-- A value that a run comes to it comes to from somewhere. -/
theorem comesTo (m : Run α) : Ends m (fun a => ∃ p, (exec m p).1 = .ok a) (fun _ => True) := by
  intro p
  cases hr : (exec m p).1 with
  | ok a => exact ⟨p, hr⟩
  | error e => trivial

theorem ask (q : Query) : Ends (Run.ask q) (fun _ => True) E := fun _ => trivial

theorem report (e : Event) : Ends (Run.report e) (fun _ => True) E := fun _ => trivial

theorem mergeStatus (s : BigSegmentsStatus) : Ends (Run.mergeStatus s) (fun _ => True) E :=
  fun _ => trivial

/-- Of the errors of a contained run only a circular path is left. -/
theorem contain {m : Run Detail} {A : Detail → Prop} (hm : Ends m A E)
    (hA : ∀ e, E e → (∀ key, e ≠ .circularPrerequisite key) → A (.ofError e.kind)) :
    Ends (Environment.contain m) A (fun e => E e ∧ ∃ key, e = .circularPrerequisite key) := by
  intro p
  have hp := hm p
  rw [Environment.exec_contain]
  rcases hr : exec m p with ⟨r, q⟩
  rw [hr] at hp
  cases r with
  | ok d => exact hp
  | error e =>
      cases e
      case circularPrerequisite key => exact ⟨hp, key, rfl⟩
      all_goals exact hA _ hp (fun key h => by cases h)

theorem anyM {f : β → Run Bool} {xs : List β} (h : ∀ x ∈ xs, Ends (f x) (fun _ => True) E) :
    Ends (xs.anyM f) (fun _ => True) E := by
  induction xs with
  | nil => exact pure trivial
  | cons x xs ih =>
      rw [List.anyM_cons]
      refine bind (h x List.mem_cons_self) fun b _ => ?_
      cases b with
      | true => exact pure trivial
      | false => exact ih fun y hy => h y (List.mem_cons_of_mem x hy)

theorem allM {f : β → Run Bool} {xs : List β} (h : ∀ x ∈ xs, Ends (f x) (fun _ => True) E) :
    Ends (xs.allM f) (fun _ => True) E := by
  induction xs with
  | nil => exact pure trivial
  | cons x xs ih =>
      rw [List.allM_cons]
      refine bind (h x List.mem_cons_self) fun b _ => ?_
      cases b with
      | true => exact ih fun y hy => h y (List.mem_cons_of_mem x hy)
      | false => exact pure trivial

end Ends
end Run

/-! ## Getting at memberships

An environment may fail to get at a membership. The one of a source never does. -/

/-- Asking for a membership never fails. -/
def Environment.Available (env : Environment) : Prop :=
  ∀ contextKey, Run.Ends (env.membership contextKey) (fun _ => True) (fun _ => False)

theorem Environment.Available.ends {env : Environment} {E : EvaluationError → Prop}
    (h : env.Available) (contextKey : String) :
    Run.Ends (env.membership contextKey) (fun _ => True) E :=
  (h contextKey).mono (fun _ ha => ha) fun _ he => he.elim

namespace Source

theorem environment_available (source : Source) : source.environment.Available := by
  intro contextKey p
  show Outcome _ _ (Run.exec (source.askOnce contextKey) p).1
  rw [exec_askOnce]
  cases Entries.find? contextKey p.memberships with
  | some a => trivial
  | none => trivial

end Source
end FeatureFlags
