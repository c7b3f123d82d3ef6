import Mathlib.Data.List.Forall2
import FeatureFlags.Proofs.Evaluation.Graph

/-! # Targets for users

The keys of users stand in the targets of a flag. As soon as there are context targets, those are
gone through instead, and one for users stands for the target of the same variation: the keys are
looked up there, and its own are not used.

So context targets for users that stand for all targets, in their order (`Target.StandsFor`), serve
what the targets serve by themselves (`targetVariation?_of_standsFor`). The targets have to have
different variations, since a placeholder stands for the first target of its variation. -/

namespace FeatureFlags

/-- A context target for users, of the same variation. Its own keys do not count. -/
structure Target.StandsFor (placeholder t : Target) : Prop where
  contextKind : placeholder.contextKind = none ∨ placeholder.contextKind = some Context.defaultKind
  variation : placeholder.variation = t.variation

theorem Target.StandsFor.getD_contextKind {placeholder t : Target} (h : placeholder.StandsFor t) :
    placeholder.contextKind.getD Context.defaultKind = Context.defaultKind := by
  rcases h.contextKind with hkind | hkind <;> simp [hkind]

/-- Among targets of different variations each is found by its own. -/
theorem Target.find?_variation {ts : List Target}
    (hdistinct : ts.Pairwise fun a b => a.variation ≠ b.variation) {t : Target} (ht : t ∈ ts) :
    (ts.find? fun other => other.variation == t.variation) = some t := by
  induction hdistinct with
  | nil => cases ht
  | cons hfirst _ ih =>
      rcases List.mem_cons.mp ht with rfl | ht
      · exact List.find?_cons_of_pos (beq_self_eq_true t.variation)
      · have hne := hfirst t ht
        rw [List.find?_cons_of_neg (by simpa using hne)]
        exact ih ht

/-- What is found along lists that are related item by item is related, if the tests agree. -/
theorem rel_find?_of_forall₂ {α β : Type} {R : α → β → Prop} {p : α → Bool} {q : β → Bool}
    {xs : List α} {ys : List β} (h : List.Forall₂ R xs ys)
    (hpq : ∀ x y, R x y → y ∈ ys → p x = q y) : Option.Rel R (xs.find? p) (ys.find? q) := by
  induction h with
  | nil => exact .none
  | cons hxy _ ih =>
      rw [List.find?_cons, List.find?_cons, hpq _ _ hxy List.mem_cons_self]
      split
      · exact .some hxy
      · exact ih fun x y hxy hy => hpq x y hxy (List.mem_cons_of_mem _ hy)

namespace Flag

/-- The keys of a context target that stands for a target are those of that target. -/
theorem keysOf_of_standsFor {f : Flag}
    (hdistinct : f.targets.Pairwise fun a b => a.variation ≠ b.variation) {placeholder t : Target}
    (h : placeholder.StandsFor t) (ht : t ∈ f.targets) : f.keysOf placeholder = t.values := by
  unfold keysOf
  rw [if_pos h.getD_contextKind, h.variation, Target.find?_variation hdistinct ht]

/-- **Placeholders change nothing.** Let the targets of a flag have different variations. With
context targets for users that stand for them in their order, whatever keys these hold themselves,
the flag serves every context the variation that it serves without context targets. -/
theorem targetVariation?_of_standsFor (f : Flag) (placeholders : List Target) (c : Context)
    (hdistinct : f.targets.Pairwise fun a b => a.variation ≠ b.variation)
    (h : List.Forall₂ Target.StandsFor placeholders f.targets) :
    { f with contextTargets := placeholders }.targetVariation? c
      = { f with contextTargets := [] }.targetVariation? c := by
  let g : Flag := { f with contextTargets := placeholders }
  -- A placeholder is for users, and the keys it is tested with are those of its target.
  have htest : ∀ placeholder t, placeholder.StandsFor t → t ∈ f.targets →
      c.keyIn (placeholder.contextKind.getD Context.defaultKind) (g.keysOf placeholder)
        = c.keyIn Context.defaultKind t.values := by
    intro placeholder t hstands ht
    rw [hstands.getD_contextKind, keysOf_of_standsFor (f := g) hdistinct hstands ht]
  have hvariation : ∀ found₁ found₂, Option.Rel Target.StandsFor found₁ found₂ →
      found₁.map Target.variation = found₂.map Target.variation := by
    intro found₁ found₂ hfound
    cases hfound with
    | none => rfl
    | some hstands => exact congrArg some hstands.variation
  cases placeholders with
  | nil => rfl
  | cons first others => exact hvariation _ _ (rel_find?_of_forall₂ h htest)

/-- The first placeholder lists the context itself, but stands for a target that does not. -/
theorem targetVariation?_of_standsFor_unlisted :
    let placeholders : List Target := [⟨some "user", ["u"], 0⟩, ⟨none, [], 1⟩]
    let f : Flag :=
      { Flag.named "f" [] with targets := [⟨none, ["v"], 0⟩, ⟨none, ["w", "u"], 1⟩] }
    let c : Context := ⟨[("key", .string "u")], true⟩
    f.targets.Pairwise (fun a b => a.variation ≠ b.variation) ∧
      List.Forall₂ Target.StandsFor placeholders f.targets ∧
      { f with contextTargets := placeholders }.targetVariation? c
        = { f with contextTargets := [] }.targetVariation? c ∧
      { f with contextTargets := [] }.targetVariation? c = some 1 := by
  intro placeholders f c
  have hdistinct : f.targets.Pairwise fun a b => a.variation ≠ b.variation := by decide
  have hstands : List.Forall₂ Target.StandsFor placeholders f.targets :=
    .cons ⟨.inr rfl, rfl⟩ (.cons ⟨.inl rfl, rfl⟩ .nil)
  exact ⟨hdistinct, hstands, targetVariation?_of_standsFor f placeholders c hdistinct hstands,
    by decide⟩

end Flag
end FeatureFlags
