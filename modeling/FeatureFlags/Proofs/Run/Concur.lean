import Mathlib.Data.List.Forall2
import FeatureFlags.Proofs.Run.Progress

/-! # Runs that concur

Two runs concur if they never come to different values: from whatever coherent progress each of them
starts, they come to one value or one of them fails.

A walk along a list stops at the first item that settles it, so two walks that take the items in
different orders look at different items, remember different answers and fail at different places.
Still they concur if their items do (`Concur.anyM`, `Concur.allM`): what the one walk found at an
item, the other would have found there too, wherever it came from. -/

namespace FeatureFlags

/-! ## Lists in another order

Related items may differ in the order of lists that they hold themselves, so permutations are not
enough. -/

/-- The lists hold related items, though not in the same order. -/
def Rearranged {α β : Type} (R : α → β → Prop) (xs : List α) (ys : List β) : Prop :=
  ∃ between, xs.Perm between ∧ List.Forall₂ R between ys

namespace Rearranged

variable {α β : Type} {R : α → β → Prop} {xs : List α} {ys : List β}

theorem of_perm {xs ys : List α} (h : xs.Perm ys) : Rearranged Eq xs ys :=
  ⟨ys, h, List.forall₂_same.mpr fun _ _ => rfl⟩

theorem refl {R : α → α → Prop} (hR : ∀ x, R x x) (xs : List α) : Rearranged R xs xs :=
  ⟨xs, .refl xs, List.forall₂_same.mpr fun x _ => hR x⟩

theorem exists_of_forall₂ (h : List.Forall₂ R xs ys) : ∀ x ∈ xs, ∃ y ∈ ys, R x y := by
  induction h with
  | nil => simp
  | cons hxy _ ih =>
      intro x hx
      rcases List.mem_cons.mp hx with rfl | hx
      · exact ⟨_, List.mem_cons_self, hxy⟩
      · obtain ⟨y, hy, hxy⟩ := ih x hx
        exact ⟨y, List.mem_cons_of_mem _ hy, hxy⟩

theorem exists_right (h : Rearranged R xs ys) : ∀ x ∈ xs, ∃ y ∈ ys, R x y := by
  obtain ⟨between, hperm, hrelated⟩ := h
  intro x hx
  exact exists_of_forall₂ hrelated x (hperm.mem_iff.mp hx)

theorem exists_left (h : Rearranged R xs ys) : ∀ y ∈ ys, ∃ x ∈ xs, R x y := by
  obtain ⟨between, hperm, hrelated⟩ := h
  intro y hy
  obtain ⟨x, hx, hxy⟩ := exists_of_forall₂ hrelated.flip y hy
  exact ⟨x, hperm.mem_iff.mpr hx, hxy⟩

end Rearranged

namespace Run

variable {α β γ : Type} {source : Source}

/-! ## What a run may come to

Which progress a walk has made when it comes to an item depends on the order, and is left open: a
run may come to a value if it does so from any coherent progress at all. -/

/-- From coherent progress the run leaves coherent progress. -/
def Keeps (source : Source) (m : Run α) : Prop :=
  Moves (fun p q => source.Coherent p → source.Coherent q) m

theorem isPath_coherent : IsPath fun p q => source.Coherent p → source.Coherent q where
  refl _ h := h
  trans _ _ _ hpq hqr h := hqr (hpq h)

def MayGive (source : Source) (m : Run α) (a : α) : Prop :=
  ∃ p, source.Coherent p ∧ (exec m p).1 = .ok a

namespace MayGive

theorem of_pure {a b : α} (h : MayGive source (pure a) b) : b = a := by
  obtain ⟨p, -, hb⟩ := h
  cases hb
  rfl

theorem of_bind {m : Run α} {k : α → Run β} {b : β} (hm : Keeps source m)
    (h : MayGive source (m >>= k) b) : ∃ a, MayGive source m a ∧ MayGive source (k a) b := by
  obtain ⟨p, hp, hb⟩ := h
  have hleft := hm p hp
  rw [exec_bind] at hb
  rcases hr : exec m p with ⟨r, q⟩
  rw [hr] at hb hleft
  cases r with
  | error e => cases hb
  | ok a => exact ⟨a, ⟨p, hp, congrArg Prod.fst hr⟩, q, hleft, hb⟩

/-- A walk that comes to true has come to an item of which that holds, and one that comes to false
has seen all of them. -/
theorem of_anyM {f : β → Run Bool} {xs : List β} (hf : ∀ x ∈ xs, Keeps source (f x)) {found : Bool}
    (h : MayGive source (xs.anyM f) found) :
    if found then ∃ x ∈ xs, MayGive source (f x) true
    else ∀ x ∈ xs, MayGive source (f x) false := by
  induction xs with
  | nil =>
      obtain rfl := of_pure h
      simp
  | cons x xs ih =>
      obtain ⟨hx, hxs⟩ := List.forall_mem_cons.mp hf
      rw [List.anyM_cons] at h
      obtain ⟨first, hfirst, hrest⟩ := of_bind hx h
      -- The walk ends at the first item, or it is the walk along the others.
      cases first with
      | true =>
          obtain rfl := of_pure hrest
          exact ⟨x, List.mem_cons_self, hfirst⟩
      | false =>
          replace ih := ih hxs hrest
          cases found with
          | true =>
              obtain ⟨y, hy, hgive⟩ := ih
              exact ⟨y, List.mem_cons_of_mem x hy, hgive⟩
          | false => exact List.forall_mem_cons.mpr ⟨hfirst, ih⟩

end MayGive

/-! ## Two runs

A run concurs with itself if it leaves coherent progress and has one value from everywhere. The
opposite of a walk for some item is a walk for all of them, so one of the two rules gives the
other. -/

structure Concur (source : Source) (m₁ m₂ : Run α) : Prop where
  left : Keeps source m₁
  right : Keeps source m₂
  value : ∀ a b, MayGive source m₁ a → MayGive source m₂ b → a = b

namespace Concur

theorem ofExcept (r : Except EvaluationError α) :
    Concur source (Run.ofExcept r) (Run.ofExcept r) where
  left := .ofExcept isPath_coherent r
  right := .ofExcept isPath_coherent r
  value := by
    rintro a b ⟨p, -, ha⟩ ⟨q, -, hb⟩
    rw [exec_ofExcept] at ha hb
    exact Except.ok.inj (ha.symm.trans hb)

theorem pure (a : α) : Concur source (Pure.pure a) (Pure.pure a) := ofExcept (.ok a)

theorem throw (e : EvaluationError) :
    Concur source (MonadExcept.throw e : Run α) (MonadExcept.throw e) :=
  ofExcept (.error e)

/-- What gives no value but leaves the memberships alone. -/
theorem of_memberships {m : Run Unit}
    (h : ∀ p, (exec m p).2.memberships = p.memberships) : Concur source m m where
  left p hp := hp.of_memberships_eq (h p)
  right p hp := hp.of_memberships_eq (h p)
  value _ _ _ _ := rfl

theorem ask (q : Query) : Concur source (Run.ask q) (Run.ask q) := of_memberships fun _ => rfl

theorem mergeStatus (s : BigSegmentsStatus) :
    Concur source (Run.mergeStatus s) (Run.mergeStatus s) := of_memberships fun _ => rfl

theorem membership {env : Environment} (h : env.Reads source) (contextKey : String) :
    Concur source (env.membership contextKey) (env.membership contextKey) where
  left := h.coherent contextKey
  right := h.coherent contextKey
  value := by
    rintro a b ⟨p, hp, ha⟩ ⟨q, hq, hb⟩
    rw [h.answers contextKey p hp] at ha
    rw [h.answers contextKey q hq] at hb
    exact Except.ok.inj (ha.symm.trans hb)

theorem bind {m₁ m₂ : Run α} {k₁ k₂ : α → Run β} (hm : Concur source m₁ m₂)
    (hk : ∀ a, Concur source (k₁ a) (k₂ a)) : Concur source (m₁ >>= k₁) (m₂ >>= k₂) where
  left := .bind isPath_coherent hm.left fun a => (hk a).left
  right := .bind isPath_coherent hm.right fun a => (hk a).right
  value := by
    intro b₁ b₂ h₁ h₂
    obtain ⟨a₁, ha₁, hb₁⟩ := MayGive.of_bind hm.left h₁
    obtain ⟨a₂, ha₂, hb₂⟩ := MayGive.of_bind hm.right h₂
    obtain rfl := hm.value a₁ a₂ ha₁ ha₂
    exact (hk a₁).value b₁ b₂ hb₁ hb₂

theorem map {m₁ m₂ : Run α} (h : α → β) (hm : Concur source m₁ m₂) :
    Concur source (h <$> m₁) (h <$> m₂) := by
  rw [map_eq_pure_bind, map_eq_pure_bind]
  exact bind hm fun a => pure (h a)

section Walks

variable {R : β → γ → Prop} {f : β → Run Bool} {g : γ → Run Bool} {xs : List β} {ys : List γ}
  (h : Rearranged R xs ys) (hfg : ∀ x y, R x y → Concur source (f x) (g y))

include h hfg

/-- Walks along rearranged lists concur if they do at related items. -/
theorem anyM : Concur source (xs.anyM f) (ys.anyM g) := by
  have hf : ∀ x ∈ xs, Keeps source (f x) := by
    intro x hx
    obtain ⟨y, -, hxy⟩ := h.exists_right x hx
    exact (hfg x y hxy).left
  have hg : ∀ y ∈ ys, Keeps source (g y) := by
    intro y hy
    obtain ⟨x, -, hxy⟩ := h.exists_left y hy
    exact (hfg x y hxy).right
  refine ⟨.anyM isPath_coherent hf, .anyM isPath_coherent hg, ?_⟩
  intro a b ha hb
  replace ha := MayGive.of_anyM hf ha
  replace hb := MayGive.of_anyM hg hb
  -- Where one walk stopped at an item, the other has not passed by the item related to it.
  cases a <;> cases b
  · rfl
  · obtain ⟨y, hy, hgive⟩ := hb
    obtain ⟨x, hx, hxy⟩ := h.exists_left y hy
    exact (hfg x y hxy).value false true (ha x hx) hgive
  · obtain ⟨x, hx, hgive⟩ := ha
    obtain ⟨y, hy, hxy⟩ := h.exists_right x hx
    exact (hfg x y hxy).value true false hgive (hb y hy)
  · rfl

theorem allM : Concur source (xs.allM f) (ys.allM g) := by
  rw [List.allM_eq_not_anyM_not, List.allM_eq_not_anyM_not]
  exact map _ (anyM h fun x y hxy => map _ (hfg x y hxy))

end Walks

end Concur
end Run
end FeatureFlags
