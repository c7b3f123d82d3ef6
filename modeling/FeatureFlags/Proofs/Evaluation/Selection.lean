import FeatureFlags.Evaluation.Serving

/-! # Which share a rollout selects

The shares of a rollout are stretches laid end to end, and `pick` walks along them with the end of
the last one in hand. Here it is said by places what the walk comes to: the first stretch that ends
behind the point (`pick_eq_some_iff`), or nothing if none does (`pick_eq_none_iff`). So a rollout
selects the first share that ends behind the bucket, or else its last one
(`Rollout.shareAt_eq_iff`).

Nothing is assumed of the numbers but that they can be added and compared. Floating-point ends need
not ascend, nor come out the same when they are added up in another way, so the walk is described by
the very sums that it makes (`endAt`). -/

namespace FeatureFlags

section Stretches

variable {α β : Type} [Add α] {length : β → α} {point start : α} {bs : List β}

/-- Where the stretch at a place ends, if all of them are laid end to end from `start`. -/
def endAt (length : β → α) (start : α) (bs : List β) (place : Nat) : α :=
  (bs.take (place + 1)).foldl (fun sum b => sum + length b) start

theorem endAt_zero (b : β) (bs : List β) : endAt length start (b :: bs) 0 = start + length b := by
  rw [endAt, List.take_succ_cons, List.take_zero]
  rfl

/-- Behind the first stretch the others are laid from its end. -/
theorem endAt_succ (b : β) (bs : List β) (place : Nat) :
    endAt length start (b :: bs) (place + 1) = endAt length (start + length b) bs place := by
  rw [endAt, List.take_succ_cons, List.foldl_cons]
  rfl

variable [LT α] [DecidableLT α]

theorem pick_cons (b : β) (bs : List β) :
    pick length point start (b :: bs) = if point < start + length b then some b
      else pick length point (start + length b) bs :=
  rfl

/-- The walk comes to the first stretch that ends behind the point. -/
theorem pick_eq_some_iff {b : β} :
    pick length point start bs = some b ↔
      ∃ place, bs[place]? = some b ∧ point < endAt length start bs place ∧
        ∀ before < place, ¬ point < endAt length start bs before := by
  induction bs generalizing start with
  | nil => exact ⟨nofun, fun ⟨_, h, _⟩ => by cases h⟩
  | cons d bs ih =>
      rw [pick_cons]
      by_cases hd : point < start + length d
      · rw [if_pos hd]
        constructor
        · intro h
          refine ⟨0, h, ?_, fun _ hlt => absurd hlt (Nat.not_lt_zero _)⟩
          rwa [endAt_zero]
        · rintro ⟨place, hget, -, hbefore⟩
          cases place with
          | zero => exact hget
          | succ place =>
              obtain ⟨hno, -⟩ := Nat.forall_lt_succ_left.mp hbefore
              rw [endAt_zero] at hno
              exact absurd hd hno
      · -- The first stretch is left behind, so every place counts one less from here on.
        rw [if_neg hd, ih]
        constructor
        · rintro ⟨place, hget, hbehind, hbefore⟩
          refine ⟨place + 1, hget, ?_, ?_⟩
          · rwa [endAt_succ]
          · rw [Nat.forall_lt_succ_left, endAt_zero]
            simp only [endAt_succ]
            exact ⟨hd, hbefore⟩
        · rintro ⟨place, hget, hbehind, hbefore⟩
          cases place with
          | zero =>
              rw [endAt_zero] at hbehind
              exact absurd hbehind hd
          | succ place =>
              rw [endAt_succ] at hbehind
              rw [Nat.forall_lt_succ_left] at hbefore
              simp only [endAt_succ] at hbefore
              exact ⟨place, hget, hbehind, hbefore.2⟩

/-- The walk comes to nothing if no stretch ends behind the point. -/
theorem pick_eq_none_iff :
    pick length point start bs = none ↔
      ∀ place < bs.length, ¬ point < endAt length start bs place := by
  induction bs generalizing start with
  | nil => exact ⟨fun _ _ h => absurd h (Nat.not_lt_zero _), fun _ => rfl⟩
  | cons b bs ih =>
      rw [List.length_cons, Nat.forall_lt_succ_left, endAt_zero]
      simp only [endAt_succ]
      rw [← ih, pick_cons]
      by_cases hb : point < start + length b
      · rw [if_pos hb]
        exact ⟨nofun, fun h => absurd hb h.1⟩
      · rw [if_neg hb]
        exact (and_iff_right hb).symm

end Stretches

namespace Rollout

variable {r : Rollout} {bucket : Float} {last share : Share}

/-- Where the share at a place ends, if all of them are laid end to end from zero. -/
def endAt (r : Rollout) (place : Nat) : Float :=
  FeatureFlags.endAt (fun s : Share => s.weight / weightScale) 0 r.shares place

/-- The share of a bucket: the first one that ends behind the bucket, or the last one if none of
them does. -/
def Selects (r : Rollout) (bucket : Float) (share : Share) : Prop :=
  (∃ place, r.shares[place]? = some share ∧ bucket < r.endAt place ∧
      ∀ before < place, ¬ bucket < r.endAt before) ∨
    r.shares.getLast? = some share ∧ ∀ place < r.shares.length, ¬ bucket < r.endAt place

theorem shareAt_eq_iff (hlast : r.shares.getLast? = some last) :
    r.shareAt last bucket = share ↔ r.Selects bucket share := by
  unfold shareAt Selects endAt
  rw [← pick_eq_some_iff, ← pick_eq_none_iff, hlast]
  cases pick (fun s : Share => s.weight / weightScale) bucket 0 r.shares with
  | none =>
      rw [Option.getD_none]
      constructor
      · rintro rfl
        exact .inr ⟨rfl, rfl⟩
      · rintro (h | ⟨h, -⟩)
        · cases h
        · exact Option.some.inj h
  | some picked =>
      rw [Option.getD_some]
      constructor
      · rintro rfl
        exact .inl rfl
      · rintro (h | ⟨-, h⟩)
        · exact Option.some.inj h
        · cases h

end Rollout
end FeatureFlags
