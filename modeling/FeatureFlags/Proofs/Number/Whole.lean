import FeatureFlags.Json.Writer
import FeatureFlags.Proofs.Number.Rounding

/-! # What an integer counts as

Where a number is asked for a signed 64-bit integer, an integer up to 2^63 - 1 counts as itself. A
greater one counts by the nearest binary64 number, and these are 2048 apart from 2^63 on. So the
integers that are rounded to 2^63, which is as far as 2^63 + 1024, all count as 2^63 - 1, and those
beyond count as no integer (`whole?_int`).

`standIn?` says what an integer counts as. Together with 2^63 - 1 itself, the integers that count as
2^63 - 1 are those at the limit (`AtLimit`), and these are the only ones that count as the same
(`getD_standIn?_eq_iff`). -/

namespace FeatureFlags

/-! ## Rounding above 2^63

Halfway to the next multiple of 2048 lies 2^63 + 1024, which is rounded down, to the even
multiple. -/

namespace Binary64

/-- The last integer that is rounded to 2^63: it lies halfway to the next binary64 number. -/
def lastAtLimit : Nat := 9223372036854776832

/-- From 2^63 up to 2^64 integers are rounded to multiples of 2048. -/
theorem roundNat_of_bounds {n : Nat} (hlow : 9223372036854775808 ≤ n)
    (hhigh : n < 18446744073709551616) : roundNat n = nearestMultiple 2048 n :=
  roundNat_of_bits (k := 11) hlow hhigh

theorem roundNat_eq_limit_iff {n : Nat} (hlow : 9223372036854775808 ≤ n)
    (hhigh : n < 18446744073709551616) :
    roundNat n = 9223372036854775808 ↔ n ≤ lastAtLimit := by
  rw [roundNat_of_bounds hlow hhigh, nearestMultiple, lastAtLimit]
  split <;> omega

theorem limit_le_roundNat {n : Nat} (hlow : 9223372036854775808 ≤ n)
    (hhigh : n < 18446744073709551616) : 9223372036854775808 ≤ roundNat n :=
  two_pow_le_roundNat (k := 11) hlow hhigh

end Binary64

/-! ## Integers of 64 bits -/

namespace Number

open Binary64 (least greatest lastAtLimit)

variable {n : Int}

/-- The integers that a JSON number can be, signed or not. -/
def InRange (n : Int) : Prop := least ≤ n ∧ n < UInt64.size

instance (n : Int) : Decidable (InRange n) := inferInstanceAs (Decidable (_ ∧ _))

/-- What an integer counts as where a signed 64-bit integer is asked for. -/
def standIn? (n : Int) : Option Int :=
  if n ≤ greatest then some n else if n ≤ lastAtLimit then some greatest else none

theorem standIn?_eq_self_iff : standIn? n = some n ↔ n ≤ greatest := by
  unfold standIn?
  split
  · next h => exact iff_of_true rfl h
  · next h =>
    refine iff_of_false (fun hsome => ?_) h
    split at hsome
    · exact h (Option.some.inj hsome ▸ Int.le_refl _)
    · cases hsome

/-- An integer that no signed 64-bit integer equals counts by the nearest binary64 number, and only
2^63 is let through among these. -/
theorem clamp?_roundInt (hlow : greatest < n) (hhigh : n < UInt64.size) :
    Binary64.clamp? (Binary64.roundInt n) = if n ≤ lastAtLimit then some greatest else none := by
  obtain ⟨m, rfl⟩ := Int.eq_ofNat_of_zero_le (show 0 ≤ n by unfold greatest at hlow; omega)
  have hm : 9223372036854775808 ≤ m := by unfold greatest at hlow; omega
  have hm' : m < 18446744073709551616 := Int.ofNat_lt.mp hhigh
  have hround : Binary64.roundInt m = Binary64.roundNat m := if_neg (by omega)
  have hle := Binary64.limit_le_roundNat hm hm'
  have heq := Binary64.roundNat_eq_limit_iff hm hm'
  rw [hround, Binary64.clamp?]
  -- All of these are rounded to 2^63 or beyond, and 2^63 is the upper end of what counts.
  by_cases hlast : m ≤ lastAtLimit
  · rw [heq.mpr hlast, if_pos (by decide), if_pos (Int.ofNat_le.mpr hlast)]
    rfl
  · have hne : Binary64.roundNat m ≠ 9223372036854775808 := mt heq.mp hlast
    rw [if_neg (by unfold greatest; omega), if_neg (mt Int.ofNat_le.mp hlast)]

theorem whole?_int (h : InRange n) : (int n).whole? = standIn? n := by
  rw [whole?, standIn?]
  by_cases hn : n ≤ greatest
  · rw [if_pos ⟨h.1, hn⟩, if_pos hn]
  · rw [if_neg fun hboth => hn hboth.2, if_neg hn, clamp?_roundInt (Int.not_le.mp hn) h.2]

def AtLimit (n : Int) : Prop := greatest ≤ n ∧ n ≤ lastAtLimit

instance (n : Int) : Decidable (AtLimit n) := inferInstanceAs (Decidable (_ ∧ _))

theorem getD_standIn? (n : Int) : (standIn? n).getD n = if AtLimit n then greatest else n := by
  by_cases hlow : n ≤ greatest
  · rw [standIn?, if_pos hlow]
    split
    · next hlimit => exact Int.le_antisymm hlow hlimit.1
    · rfl
  · by_cases hhigh : n ≤ lastAtLimit
    · have hlimit : AtLimit n := ⟨Int.le_of_lt (Int.not_le.mp hlow), hhigh⟩
      rw [standIn?, if_neg hlow, if_pos hhigh, if_pos hlimit]
      rfl
    · rw [standIn?, if_neg hlow, if_neg hhigh, if_neg fun hlimit : AtLimit n => hhigh hlimit.2]
      rfl

theorem getD_standIn?_eq_iff {m n : Int} :
    (standIn? m).getD m = (standIn? n).getD n ↔ m = n ∨ AtLimit m ∧ AtLimit n := by
  rw [getD_standIn?, getD_standIn?]
  split <;> split
  all_goals
    unfold AtLimit greatest lastAtLimit at *
    omega

end Number

/-! ## Decimal text -/

theorem Json.ofList_renderInt (n : Int) : String.ofList (Json.renderInt n) = n.repr := by
  rw [Int.repr_eq_if, renderInt, Decimal.digits]
  by_cases hn : n < 0
  · have habs : n.natAbs = (-n).toNat := by omega
    rw [if_pos hn, if_neg (Int.not_le.mpr hn), habs, ← String.toList_inj]
    simp
  · have habs : n.natAbs = n.toNat := by omega
    rw [if_neg hn, if_pos (Int.not_lt.mp hn), String.ofList_toList, habs]

end FeatureFlags
