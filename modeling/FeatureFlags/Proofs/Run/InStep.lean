import FeatureFlags.Proofs.Run.Ending

/-! # Two runs in step

Two runs are in step under a relation between progresses if, from related ones, they come to the
same outcome and leave related ones. It does not matter how far apart the relation lets them be:
what one run has gathered may differ from what the other has, as long as neither can tell. There is
a rule for each way of making a run, so two evaluations are kept in step part by part.

The outcome is the same on both sides, so the second halves of two runs go on from one value. They
have to be in step for those values only that the first half may come to (`bind_ends`). -/

namespace FeatureFlags
namespace Run

variable {α β : Type} {R : Progress → Progress → Prop}

def InStep (R : Progress → Progress → Prop) (m₁ m₂ : Run α) : Prop :=
  ∀ p q, R p q → (exec m₁ p).1 = (exec m₂ q).1 ∧ R (exec m₁ p).2 (exec m₂ q).2

namespace InStep

theorem ofExcept (r : Except EvaluationError α) :
    InStep R (Run.ofExcept r) (Run.ofExcept r) := by
  intro p q h
  rw [exec_ofExcept, exec_ofExcept]
  exact ⟨rfl, h⟩

theorem pure (a : α) : InStep R (Pure.pure a) (Pure.pure a) := ofExcept (.ok a)

theorem throw (e : EvaluationError) :
    InStep R (MonadExcept.throw e : Run α) (MonadExcept.throw e) :=
  ofExcept (.error e)

/-- The second halves have to be in step for those values only that the first may come to. -/
theorem bind_ends {A : α → Prop} {E : EvaluationError → Prop} {m₁ m₂ : Run α} {k₁ k₂ : α → Run β}
    (hends : Ends m₁ A E) (hm : InStep R m₁ m₂) (hk : ∀ a, A a → InStep R (k₁ a) (k₂ a)) :
    InStep R (m₁ >>= k₁) (m₂ >>= k₂) := by
  intro p q h
  have hvalue := hends p
  obtain ⟨houtcome, hleft⟩ := hm p q h
  rw [exec_bind, exec_bind]
  rcases hr₁ : exec m₁ p with ⟨r, p'⟩
  rcases hr₂ : exec m₂ q with ⟨r', q'⟩
  rw [hr₁] at hvalue
  rw [hr₁, hr₂] at houtcome hleft
  obtain rfl : r = r' := houtcome
  cases r with
  | ok a => exact hk a hvalue p' q' hleft
  | error e => exact ⟨rfl, hleft⟩

theorem bind {m₁ m₂ : Run α} {k₁ k₂ : α → Run β} (hm : InStep R m₁ m₂)
    (hk : ∀ a, InStep R (k₁ a) (k₂ a)) : InStep R (m₁ >>= k₁) (m₂ >>= k₂) :=
  bind_ends (.anyhow m₁) hm fun a _ => hk a

theorem contain {m₁ m₂ : Run Detail} (hm : InStep R m₁ m₂) :
    InStep R (Environment.contain m₁) (Environment.contain m₂) := by
  intro p q h
  obtain ⟨houtcome, hleft⟩ := hm p q h
  rw [Environment.exec_contain, Environment.exec_contain]
  exact ⟨congrArg Environment.contained houtcome, hleft⟩

theorem anyM {f g : β → Run Bool} {xs : List β} (h : ∀ x ∈ xs, InStep R (f x) (g x)) :
    InStep R (xs.anyM f) (xs.anyM g) := by
  induction xs with
  | nil => exact pure false
  | cons x xs ih =>
      rw [List.anyM_cons, List.anyM_cons]
      refine bind (h x List.mem_cons_self) fun b => ?_
      cases b with
      | true => exact pure true
      | false => exact ih fun y hy => h y (List.mem_cons_of_mem x hy)

theorem allM {f g : β → Run Bool} {xs : List β} (h : ∀ x ∈ xs, InStep R (f x) (g x)) :
    InStep R (xs.allM f) (xs.allM g) := by
  induction xs with
  | nil => exact pure true
  | cons x xs ih =>
      rw [List.allM_cons, List.allM_cons]
      refine bind (h x List.mem_cons_self) fun b => ?_
      cases b with
      | true => exact ih fun y hy => h y (List.mem_cons_of_mem x hy)
      | false => exact pure false

end InStep
end Run
end FeatureFlags
