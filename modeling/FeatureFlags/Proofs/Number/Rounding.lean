import Mathlib.Tactic.Positivity
import Mathlib.Tactic.Ring
import FeatureFlags.Binary64

/-! # Rounding integers to binary64

An integer with `k + 53` bits is rounded to a multiple of two to the power `k` (`roundNat_of_bits`).
From this follow the two facts that comparisons need.

* **Order** (`roundNat_mono`) — a greater integer is not rounded to a smaller number.
* **Distance** (`roundNat_near`) — an integer is moved by half of that power at most.

So two integers that become one number (`Merged`) lie on one side of zero, beyond 2^53, and close
together. Rounding keeps the sign, and below 2^53 it keeps all integers. -/

namespace FeatureFlags
namespace Binary64

variable {unit k m n : Nat}

/-! ## Multiples

Between two multiples the nearer one counts, and the even one halfway between them. -/

/-- The multiple of `unit` that is nearest to `n`; halfway between two of them, the even one. -/
def nearestMultiple (unit n : Nat) : Nat :=
  if 2 * (n % unit) < unit ∨ (2 * (n % unit) = unit ∧ n / unit % 2 = 0) then n / unit * unit
  else (n / unit + 1) * unit

/-- The nearest multiple is the one below, if that is at most half a unit away, or the one above. -/
theorem nearestMultiple_cases (unit n : Nat) :
    2 * (n % unit) ≤ unit ∧ nearestMultiple unit n = n / unit * unit ∨
      unit ≤ 2 * (n % unit) ∧ nearestMultiple unit n = n / unit * unit + unit := by
  unfold nearestMultiple
  split
  · next h => exact .inl ⟨by omega, rfl⟩
  · next h => exact .inr ⟨by omega, Nat.succ_mul ..⟩

theorem nearestMultiple_mono (h : m ≤ n) : nearestMultiple unit m ≤ nearestMultiple unit n := by
  rcases (Nat.div_le_div_right h : m / unit ≤ n / unit).eq_or_lt with hq | hq
  · -- Both lie between the same two multiples, so only the remainders differ.
    have hm := Nat.div_add_mod' m unit
    have hn := Nat.div_add_mod' n unit
    have habove : n / unit * unit + unit = (n / unit + 1) * unit := (Nat.succ_mul ..).symm
    unfold nearestMultiple
    rw [hq] at hm ⊢
    split <;> split <;> omega
  · have hstep : (m / unit + 1) * unit ≤ n / unit * unit := Nat.mul_le_mul_right unit hq
    have habove : (m / unit + 1) * unit = m / unit * unit + unit := Nat.succ_mul ..
    have hm := nearestMultiple_cases unit m
    have hn := nearestMultiple_cases unit n
    omega

theorem nearestMultiple_mul (hunit : 0 < unit) (q : Nat) :
    nearestMultiple unit (q * unit) = q * unit := by
  rw [nearestMultiple, Nat.mul_mod_left, if_pos (.inl hunit), Nat.mul_div_cancel q hunit]

/-! ## Rounding to 53 bits

A power of two is rounded to itself, whatever its number of bits. So the order is kept within the
integers of one number of bits, and from these to those of more bits. -/

/-- From 2^52 on an integer has 53 bits or more. -/
theorem exists_bits (h : 2 ^ 52 ≤ n) : ∃ k, 2 ^ (k + 52) ≤ n ∧ n < 2 ^ (k + 53) := by
  have hne : n ≠ 0 := by omega
  have hlog : 52 ≤ n.log2 := (Nat.le_log2 hne).mpr h
  refine ⟨n.log2 - 52, ?_, ?_⟩
  · rw [Nat.sub_add_cancel hlog]
    exact Nat.log2_self_le hne
  · rw [show n.log2 - 52 + 53 = n.log2 + 1 by omega]
    exact Nat.lt_log2_self

theorem roundNat_of_bits (hlow : 2 ^ (k + 52) ≤ n) (hhigh : n < 2 ^ (k + 53)) :
    roundNat n = nearestMultiple (2 ^ k) n := by
  have hlog : n.log2 = k + 52 :=
    (Nat.log2_eq_iff (Nat.ne_of_gt (Nat.lt_of_lt_of_le (by positivity) hlow))).mpr ⟨hlow, hhigh⟩
  rw [roundNat, hlog, Nat.add_sub_cancel]
  split
  · next hexact =>
    have hk : k = 0 := by
      by_contra hk
      have : 2 ^ 53 ≤ 2 ^ (k + 52) := Nat.pow_le_pow_right (by decide) (by omega)
      unfold exactBound at hexact
      omega
    rw [hk, pow_zero, ← Nat.mul_one n, nearestMultiple_mul Nat.one_pos]
  · rfl

/-- Powers of two, which are rounded to themselves, as multiples. -/
theorem two_pow_mul (j k : Nat) : 2 ^ j * 2 ^ k = 2 ^ (k + j) := by
  rw [Nat.add_comm, pow_add]

theorem two_pow_le_roundNat (hlow : 2 ^ (k + 52) ≤ n) (hhigh : n < 2 ^ (k + 53)) :
    2 ^ (k + 52) ≤ roundNat n := by
  calc 2 ^ (k + 52) = nearestMultiple (2 ^ k) (2 ^ 52 * 2 ^ k) := by
        rw [nearestMultiple_mul (by positivity), two_pow_mul]
    _ ≤ nearestMultiple (2 ^ k) n := nearestMultiple_mono ((two_pow_mul 52 k).trans_le hlow)
    _ = roundNat n := (roundNat_of_bits hlow hhigh).symm

theorem roundNat_le_two_pow (hhigh : n < 2 ^ (k + 52)) : roundNat n ≤ 2 ^ (k + 52) := by
  by_cases hn : n < 2 ^ 52
  · rw [roundNat_of_lt (hn.trans (by decide))]
    exact hhigh.le
  obtain ⟨j, hlow, hj⟩ := exists_bits (not_lt.mp hn)
  have hjk : j + 52 < k + 52 := (Nat.pow_lt_pow_iff_right (by decide)).mp (hlow.trans_lt hhigh)
  calc roundNat n = nearestMultiple (2 ^ j) n := roundNat_of_bits hlow hj
    _ ≤ nearestMultiple (2 ^ j) (2 ^ 53 * 2 ^ j) :=
        nearestMultiple_mono (hj.le.trans_eq (two_pow_mul 53 j).symm)
    _ = 2 ^ (j + 53) := by rw [nearestMultiple_mul (by positivity), two_pow_mul]
    _ ≤ 2 ^ (k + 52) := Nat.pow_le_pow_right (by decide) (by omega)

/-- Rounding keeps the order. -/
theorem roundNat_mono (h : m ≤ n) : roundNat m ≤ roundNat n := by
  by_cases hn : n < exactBound
  · rw [roundNat_of_lt hn, roundNat_of_lt (h.trans_lt hn)]
    exact h
  obtain ⟨k, hlow, hhigh⟩ := exists_bits (n := n) (by unfold exactBound at hn; omega)
  by_cases hm : 2 ^ (k + 52) ≤ m
  · rw [roundNat_of_bits hlow hhigh, roundNat_of_bits hm (h.trans_lt hhigh)]
    exact nearestMultiple_mono h
  · -- The lesser number has fewer bits, so a power of two lies between the two.
    exact (roundNat_le_two_pow (not_le.mp hm)).trans (two_pow_le_roundNat hlow hhigh)

/-- Rounding moves an integer by half the distance of two multiples at most. -/
theorem roundNat_near (hlow : 2 ^ (k + 52) ≤ n) (hhigh : n < 2 ^ (k + 53)) :
    2 * roundNat n ≤ 2 * n + 2 ^ k ∧ 2 * n ≤ 2 * roundNat n + 2 ^ k := by
  rw [roundNat_of_bits hlow hhigh]
  have hn := Nat.div_add_mod' n (2 ^ k)
  have hcases := nearestMultiple_cases (2 ^ k) n
  omega

/-- Integers of 64 bits are moved by 1024 at most. -/
theorem roundNat_near_of_lt (h : n < 2 ^ 64) :
    roundNat n ≤ n + 1024 ∧ n ≤ roundNat n + 1024 := by
  by_cases hn : n < exactBound
  · rw [roundNat_of_lt hn]
    omega
  obtain ⟨k, hlow, hhigh⟩ := exists_bits (n := n) (by unfold exactBound at hn; omega)
  have hk : k + 52 < 64 := (Nat.pow_lt_pow_iff_right (by decide)).mp (hlow.trans_lt h)
  have hunit : 2 ^ k ≤ 2 ^ 11 := Nat.pow_le_pow_right (by decide) (by omega)
  have hnear := roundNat_near hlow hhigh
  omega

theorem exactBound_le_roundNat (h : exactBound ≤ n) : exactBound ≤ roundNat n := by
  have hself : roundNat exactBound = exactBound := by decide
  exact hself ▸ roundNat_mono h

/-! ## Integers that become one

Integers are rounded by their absolute value, with the sign put back. -/

section

variable {m n : Int}

theorem roundInt_mono (h : m ≤ n) : roundInt m ≤ roundInt n := by
  unfold roundInt
  split <;> split
  · have := roundNat_mono (show n.natAbs ≤ m.natAbs by omega)
    omega
  · omega
  · omega
  · have := roundNat_mono (show m.natAbs ≤ n.natAbs by omega)
    omega

def Merged (m n : Int) : Prop := m ≠ n ∧ roundInt m = roundInt n

instance (m n : Int) : Decidable (Merged m n) := inferInstanceAs (Decidable (_ ∧ _))

theorem roundInt_eq_iff : roundInt m = roundInt n ↔ m = n ∨ Merged m n := by
  unfold Merged
  by_cases h : m = n
  · simp [h]
  · simp [h]

theorem roundInt_lt_iff : roundInt m < roundInt n ↔ m < n ∧ ¬ Merged m n := by
  constructor
  · intro h
    refine ⟨lt_of_not_ge fun hge => ?_, fun hmerged => ?_⟩
    · exact absurd (roundInt_mono hge) (not_le.mpr h)
    · exact absurd hmerged.2 h.ne
  · rintro ⟨hlt, hmerged⟩
    exact lt_of_le_of_ne (roundInt_mono hlt.le) fun heq => hmerged ⟨hlt.ne, heq⟩

theorem Merged.symm (h : Merged m n) : Merged n m := ⟨h.1.symm, h.2.symm⟩

theorem roundInt_le_iff : roundInt m ≤ roundInt n ↔ m ≤ n ∨ Merged m n := by
  rw [← not_lt, roundInt_lt_iff, not_and_or, not_lt, not_not]
  exact or_congr Iff.rfl ⟨Merged.symm, Merged.symm⟩

/-- Below 2^53 integers are kept, and those beyond stay beyond, on their side of zero. -/
theorem roundInt_cases (n : Int) :
    n.natAbs < exactBound ∧ roundInt n = n ∨
      exactBound ≤ n.natAbs ∧ exactBound ≤ (roundInt n).natAbs ∧ (roundInt n < 0 ↔ n < 0) := by
  unfold roundInt
  by_cases h : n.natAbs < exactBound
  · rw [roundNat_of_lt h]
    refine .inl ⟨h, ?_⟩
    split <;> omega
  · have hround := exactBound_le_roundNat (not_lt.mp h)
    have hpos : 0 < exactBound := by decide
    refine .inr ⟨not_lt.mp h, ?_⟩
    split <;> omega

/-- Merged integers lie beyond 2^53, on one side of zero. -/
theorem Merged.beyond (h : Merged m n) :
    exactBound ≤ m.natAbs ∧ exactBound ≤ n.natAbs ∧ (m < 0 ↔ n < 0) := by
  obtain ⟨hne, heq⟩ := h
  have hm := roundInt_cases m
  have hn := roundInt_cases n
  rw [heq] at hm
  omega

/-- Merged integers of 64 bits are 2048 apart at most. -/
theorem Merged.near (hm : m.natAbs < 2 ^ 64) (hn : n.natAbs < 2 ^ 64) (h : Merged m n) :
    (m - n).natAbs ≤ 2048 := by
  have hm' := roundNat_near_of_lt hm
  have hn' := roundNat_near_of_lt hn
  have heq := h.2
  unfold roundInt at heq
  split at heq <;> split at heq <;> omega

end

end Binary64
end FeatureFlags
