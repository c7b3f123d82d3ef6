import FeatureFlags.Proofs.Evaluation.Unfolding

/-! # Evaluations along a shorter path

The path that a flag is evaluated along matters only where it makes a prerequisite circular. So a
flag that is evaluated as a prerequisite of others does the same by itself, unless the evaluation
was aborted as circular: `evaluate_agrees`.

Along a shorter path fewer keys are circular. As long as the run along the longer path meets none of
them, the other run follows it step by step (`AgreeUnlessCircular`). Such an error is the one that
is not contained, so a prerequisite that is aborted aborts the flag, and nothing has to be compared
then. -/

namespace FeatureFlags

/-- The outcome is that of an evaluation aborted by a circular path. -/
def IsCircular {α : Type} (r : Except EvaluationError α) : Prop :=
  ∃ key, r = .error (.circularPrerequisite key)

namespace Run

variable {α β : Type}

/-- Wherever the first run is not aborted as circular, the second does the same. -/
def AgreeUnlessCircular (m₁ m₂ : Run α) : Prop :=
  ∀ p, ¬ IsCircular (exec m₁ p).1 → exec m₂ p = exec m₁ p

namespace AgreeUnlessCircular

theorem refl (m : Run α) : AgreeUnlessCircular m m := fun _ _ => rfl

theorem bind {m₁ m₂ : Run α} {k₁ k₂ : α → Run β} (hm : AgreeUnlessCircular m₁ m₂)
    (hk : ∀ a, AgreeUnlessCircular (k₁ a) (k₂ a)) :
    AgreeUnlessCircular (m₁ >>= k₁) (m₂ >>= k₂) := by
  intro p hp
  rcases hr : exec m₁ p with ⟨r, q⟩
  cases r with
  | ok a =>
      have hfirst : exec m₂ p = (.ok a, q) := by
        rw [hm p (by rw [hr]; rintro ⟨key, hkey⟩; cases hkey), hr]
      rw [exec_bind_ok hr] at hp ⊢
      rw [exec_bind_ok hfirst]
      exact hk a q hp
  | error e =>
      rw [exec_bind_error hr] at hp ⊢
      have hfirst : exec m₂ p = (.error e, q) := by
        rw [hm p (by rw [hr]; rintro ⟨key, hkey⟩; cases hkey; exact hp ⟨key, rfl⟩), hr]
      exact exec_bind_error hfirst k₂

theorem contain {m₁ m₂ : Run Detail} (hm : AgreeUnlessCircular m₁ m₂) :
    AgreeUnlessCircular (Environment.contain m₁) (Environment.contain m₂) := by
  intro p hp
  rw [Environment.exec_contain] at hp ⊢
  have hfirst : ¬ IsCircular (exec m₁ p).1 := by
    rintro ⟨key, hkey⟩
    rw [hkey] at hp
    exact hp ⟨key, rfl⟩
  rw [Environment.exec_contain, hm p hfirst]

end AgreeUnlessCircular
end Run

namespace Environment

open Run (AgreeUnlessCircular)

variable {env : Environment} {policy : EventPolicy} {c : Context}

theorem firstUnmet?_agrees {met₁ met₂ : Prerequisite → Run Bool} {ps : List Prerequisite}
    (h : ∀ p, AgreeUnlessCircular (met₁ p) (met₂ p)) :
    AgreeUnlessCircular (firstUnmet? met₁ ps) (firstUnmet? met₂ ps) := by
  induction ps with
  | nil => exact .refl _
  | cons p ps ih =>
      refine .bind (h p) fun met => ?_
      cases met with
      | true => exact ih
      | false => exact .refl _

theorem meets_agrees {deeper₁ deeper₂ : List String → Flag → Run Detail}
    {path₁ path₂ : List String} {f : Flag} {p : Prerequisite} (hsub : path₂ ⊆ path₁)
    (h : p.key ∉ path₁ → ∀ g, Entries.find? p.key env.data.flags = some g →
      AgreeUnlessCircular (deeper₁ (p.key :: path₁) g) (deeper₂ (p.key :: path₂) g)) :
    AgreeUnlessCircular (env.meets policy c deeper₁ path₁ f p)
      (env.meets policy c deeper₂ path₂ f p) := by
  rw [meets, meets]
  by_cases hp : p.key ∈ path₁
  · rw [if_pos hp]
    exact fun _ hc => absurd ⟨p.key, rfl⟩ hc
  · rw [if_neg hp, if_neg fun h => hp (hsub h)]
    refine .bind (.refl _) fun _ => ?_
    cases hg : Entries.find? p.key env.data.flags with
    | none => exact .refl _
    | some g => exact .bind (.contain (h hp g hg)) fun d => .refl _

/-- Along a part of its path a flag is evaluated in the same way, unless the longer path is
circular. -/
theorem evaluate_agrees {path₁ path₂ : List String} (hsub : path₂ ⊆ path₁) (f : Flag) :
    AgreeUnlessCircular (env.evaluate policy c path₁ f) (env.evaluate policy c path₂ f) := by
  induction path₁ using env.data.flags.induction_off_path generalizing path₂ f with
  | step path₁ ih =>
      rw [evaluate_eq, evaluate_eq]
      split
      · exact .refl _
      · refine .bind (firstUnmet?_agrees fun p => meets_agrees hsub fun hp g hg => ?_)
          fun unmet => .refl _
        exact ih p.key g hp hg (List.cons_subset_cons p.key hsub) g

end Environment
end FeatureFlags
