import FeatureFlags.Proofs.Run.Ending

/-! # What a run makes of its progress

Whether a run fails or not, what it has gathered stays. `Run.Moves R m` says that the progress
before and the progress after the run `m` stand in the relation `R`.

If `R` holds along each of the few things that a run does by itself, and along one thing after
another (`IsPath`), then it holds along everything made of them. The relations this is used for say
what can happen between two points of an evaluation: which keys have been asked for, which health
has been reported, or that no event has been added. -/

namespace FeatureFlags
namespace Run

variable {α β : Type} {R : Progress → Progress → Prop}

def Moves (R : Progress → Progress → Prop) (m : Run α) : Prop := ∀ p, R p (exec m p).2

/-- The relation goes along one thing after another. -/
structure IsPath (R : Progress → Progress → Prop) : Prop where
  refl : ∀ p, R p p
  trans : ∀ p q r, R p q → R q r → R p r

namespace Moves

theorem ofExcept (h : IsPath R) (r : Except EvaluationError α) : Moves R (Run.ofExcept r) := by
  intro p
  rw [exec_ofExcept]
  exact h.refl p

theorem pure (h : IsPath R) (a : α) : Moves R (Pure.pure a) := fun p => h.refl p

theorem throw (h : IsPath R) (e : EvaluationError) : Moves R (MonadExcept.throw e : Run α) :=
  fun p => h.refl p

/-- Only what the first run may come to has to be followed. -/
theorem bind_ends (h : IsPath R) {A : α → Prop} {E : EvaluationError → Prop} {m : Run α}
    {k : α → Run β} (hends : Ends m A E) (hm : Moves R m) (hk : ∀ a, A a → Moves R (k a)) :
    Moves R (m >>= k) := by
  intro p
  have hvalue := hends p
  have hfirst := hm p
  rw [exec_bind]
  rcases hr : exec m p with ⟨r, q⟩
  rw [hr] at hvalue hfirst
  cases r with
  | error e => exact hfirst
  | ok a => exact h.trans p q _ hfirst (hk a hvalue q)

theorem bind (h : IsPath R) {m : Run α} {k : α → Run β} (hm : Moves R m)
    (hk : ∀ a, Moves R (k a)) : Moves R (m >>= k) :=
  bind_ends h (.anyhow m) hm fun a _ => hk a

theorem contain {m : Run Detail} (hm : Moves R m) : Moves R (Environment.contain m) := by
  intro p
  rw [Environment.exec_contain]
  exact hm p

theorem anyM (h : IsPath R) {f : β → Run Bool} {xs : List β} (hf : ∀ x ∈ xs, Moves R (f x)) :
    Moves R (xs.anyM f) := by
  induction xs with
  | nil => exact pure h false
  | cons x xs ih =>
      rw [List.anyM_cons]
      refine bind h (hf x List.mem_cons_self) fun b => ?_
      cases b with
      | true => exact pure h true
      | false => exact ih fun y hy => hf y (List.mem_cons_of_mem x hy)

theorem allM (h : IsPath R) {f : β → Run Bool} {xs : List β} (hf : ∀ x ∈ xs, Moves R (f x)) :
    Moves R (xs.allM f) := by
  induction xs with
  | nil => exact pure h true
  | cons x xs ih =>
      rw [List.allM_cons]
      refine bind h (hf x List.mem_cons_self) fun b => ?_
      cases b with
      | true => exact ih fun y hy => hf y (List.mem_cons_of_mem x hy)
      | false => exact pure h false

end Moves
end Run

/-! ## Asking for memberships

A membership is asked for with a query, and its health is taken note of. -/

namespace Source

open Run

/-- Asking anew gathers no events. -/
theorem events_askAnew (source : Source) (contextKey : String) (p : Progress) :
    (exec (source.askAnew contextKey) p).2.events = p.events := by
  unfold askAnew
  rw [exec_bind, exec_ask]
  cases source.membership? contextKey <;> rfl

theorem events_askOnce (source : Source) (contextKey : String) (p : Progress) :
    (exec (source.askOnce contextKey) p).2.events = p.events := by
  rw [exec_askOnce]
  cases Entries.find? contextKey p.memberships with
  | some a => rfl
  | none => exact source.events_askAnew contextKey p

end Source
end FeatureFlags
