import Mathlib.Data.Rat.Cast.Order
import FeatureFlags.Operator
import FeatureFlags.Proofs.Number.Rounding
import FeatureFlags.Proofs.Number.Whole

/-! # Integers compared

The operators on numbers compare the nearest binary64 numbers. For two integers this is the
comparison of the integers themselves, unless they become one binary64 number: then they count as
equal (`apply_ofInt`).

Rounding is monotone, so less and greater can only be lost, and never turn round. What is left to
say is which integers become one, and for how far apart: that is `Binary64.Merged`. -/

namespace FeatureFlags

open Binary64 (Merged exactBound roundInt)
open Number (InRange)

variable {m n : Int}

theorem Number.InRange.natAbs_lt (h : InRange n) : n.natAbs < 2 ^ 64 := by
  have hsize : (UInt64.size : Int) = 2 ^ 64 := rfl
  unfold InRange Binary64.least at h
  omega

namespace Operator

theorem sameScalar_ofInt : sameScalar (.ofInt m) (.ofInt n) = true ↔ roundInt m = roundInt n := by
  show ((roundInt m : Rat) == (roundInt n : Rat)) = true ↔ _
  rw [beq_iff_eq, Int.cast_inj]

/-- **Integers as operands.** Each operator on numbers compares two integers as they are, unless
they become one binary64 number. Such two count as equal. They lie beyond 2^53 on one side of zero
and are 2048 apart at most. -/
theorem apply_ofInt (hm : InRange m) (hn : InRange n) :
    ((isIn.apply (.ofInt m) (.ofInt n) = true ↔ m = n ∨ Merged m n) ∧
      (lessThan.apply (.ofInt m) (.ofInt n) = true ↔ m < n ∧ ¬ Merged m n) ∧
      (lessThanOrEqual.apply (.ofInt m) (.ofInt n) = true ↔ m ≤ n ∨ Merged m n) ∧
      (greaterThan.apply (.ofInt m) (.ofInt n) = true ↔ m > n ∧ ¬ Merged m n) ∧
      (greaterThanOrEqual.apply (.ofInt m) (.ofInt n) = true ↔ m ≥ n ∨ Merged m n)) ∧
    (Merged m n → exactBound ≤ m.natAbs ∧ exactBound ≤ n.natAbs ∧ (m < 0 ↔ n < 0) ∧
      (m - n).natAbs ≤ 2048) := by
  have hsymm : Merged n m ↔ Merged m n := ⟨Merged.symm, Merged.symm⟩
  refine ⟨⟨?_, ?_, ?_, ?_, ?_⟩, fun h => ?_⟩
  · exact sameScalar_ofInt.trans Binary64.roundInt_eq_iff
  · show decide ((roundInt m : Rat) < roundInt n) = true ↔ _
    rw [decide_eq_true_iff, Int.cast_lt, Binary64.roundInt_lt_iff]
  · show decide ((roundInt m : Rat) ≤ roundInt n) = true ↔ _
    rw [decide_eq_true_iff, Int.cast_le, Binary64.roundInt_le_iff]
  · show decide ((roundInt m : Rat) > roundInt n) = true ↔ _
    rw [decide_eq_true_iff, gt_iff_lt, Int.cast_lt, Binary64.roundInt_lt_iff, hsymm]
  · show decide ((roundInt m : Rat) ≥ roundInt n) = true ↔ _
    rw [decide_eq_true_iff, ge_iff_le, Int.cast_le, Binary64.roundInt_le_iff, hsymm]
  · obtain ⟨hm', hn', hsign⟩ := h.beyond
    exact ⟨hm', hn', hsign, h.near hm.natAbs_lt hn.natAbs_lt⟩

/-- Next to 2^53 two integers become one: each counts as being in a list of the other, and neither
is less. Their neighbours are told apart. -/
theorem apply_ofInt_merged :
    InRange 9007199254740992 ∧ InRange 9007199254740993 ∧ InRange 9007199254740991 ∧
      isIn.apply (.ofInt 9007199254740992) (.ofInt 9007199254740993) = true ∧
      lessThan.apply (.ofInt 9007199254740992) (.ofInt 9007199254740993) = false ∧
      isIn.apply (.ofInt 9007199254740992) (.ofInt 9007199254740991) = false := by
  have hlow : InRange 9007199254740991 := by decide
  have hm : InRange 9007199254740992 := by decide
  have hn : InRange 9007199254740993 := by decide
  obtain ⟨⟨hin, hless, -⟩, -⟩ := apply_ofInt hm hn
  obtain ⟨⟨hother, -⟩, -⟩ := apply_ofInt hm hlow
  have hmerged : Merged 9007199254740992 9007199254740993 := by decide
  refine ⟨hm, hn, hlow, hin.mpr (.inr hmerged), ?_, ?_⟩
  · exact Bool.eq_false_iff.mpr fun h => (hless.mp h).2 hmerged
  · exact Bool.eq_false_iff.mpr fun h => absurd (hother.mp h) (by decide)

/-- A list with one integer matches another integer. -/
theorem isIn_ofInt_inexact :
    isIn.apply (.ofInt 9007199254740993) (.ofInt 9007199254740992) = true ∧
      ¬ ∀ m n : Int, InRange m → InRange n →
        (isIn.apply (.ofInt m) (.ofInt n) = true ↔ m = n) := by
  have hin : isIn.apply (.ofInt 9007199254740993) (.ofInt 9007199254740992) = true :=
    sameScalar_ofInt.mpr (by decide)
  refine ⟨hin, fun h => ?_⟩
  have heq := (h 9007199254740993 9007199254740992 (by decide) (by decide)).mp hin
  exact absurd heq (by decide)

end Operator
end FeatureFlags
