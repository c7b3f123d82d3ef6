import Mathlib.Data.List.Basic
import Mathlib.Tactic.IntervalCases
import FeatureFlags.Decimal.Notation
import FeatureFlags.Text.Digit
import FeatureFlags.Text.Span

/-! # Decimal numerals read back

A row of decimal digits has values (`values`), and these make up a number. The digits of a number
are read back as the number (`number_values_digits`), and a row of digits without a zero in front is
the digits of the number that it writes (`digits_number_values`). So each number has one numeral
without leading zeros. -/

namespace FeatureFlags

variable {c : Char} {cs rest : List Char}

/-! ## Rows of digits

A row ends where something stands that is no digit, or where the text ends. The value of a row is a
fold, as it is for `Nat.ofDigitChars`, whose lemmas are used for the rest. -/

namespace Digit

theorem decimal?_of_isDigit (h : c.isDigit = true) : decimal? c = some (c.toNat - '0'.toNat) := by
  rw [decimal?, if_pos]
  exact Char.isDigit_iff_toNat.mp h

theorem isDecimal_eq (c : Char) : isDecimal c = c.isDigit := by
  by_cases h : c.isDigit = true
  · rw [isDecimal, decimal?_of_isDigit h, h]
    rfl
  · have hnot : ¬ ('0' ≤ c ∧ c ≤ '9') := mt Char.isDigit_iff_toNat.mpr h
    rw [isDecimal, decimal?, if_neg hnot, Bool.eq_false_iff.mpr h]
    rfl

def values (cs : List Char) : List Nat := cs.filterMap decimal?

theorem digit_lt_ten (h : c.isDigit = true) : c.toNat - '0'.toNat < 10 := by
  have hhigh : c.toNat ≤ '9'.toNat := (Char.isDigit_iff_toNat.mp h).2
  have hzero : '0'.toNat = 48 := rfl
  have hnine : '9'.toNat = 57 := rfl
  omega

theorem values_cons (h : c.isDigit = true) :
    values (c :: cs) = (c.toNat - '0'.toNat) :: values cs :=
  List.filterMap_cons_some (decimal?_of_isDigit h)

theorem takeDecimals_append (h : ∀ c ∈ cs, c.isDigit = true)
    (hrest : Text.Stops Char.isDigit rest) : takeDecimals (cs ++ rest) = (values cs, rest) := by
  have hcut := Text.takeWhile_eq_and_dropWhile_eq_iff.mpr ⟨rfl, h, hrest⟩
  rw [takeDecimals, funext isDecimal_eq, hcut.1, hcut.2]
  rfl

/-- Every text is a row of digits and what follows it. -/
theorem exists_row (cs : List Char) :
    ∃ row rest, cs = row ++ rest ∧ (∀ c ∈ row, c.isDigit = true) ∧ Text.Stops Char.isDigit rest :=
  ⟨_, _, Text.takeWhile_eq_and_dropWhile_eq_iff.mp ⟨rfl, rfl⟩⟩

theorem foldl_values (h : ∀ c ∈ cs, c.isDigit = true) (n : Nat) :
    (values cs).foldl (fun n d => 10 * n + d) n = Nat.ofDigitChars 10 cs n := by
  induction cs generalizing n with
  | nil => rfl
  | cons c cs ih =>
      obtain ⟨hc, hcs⟩ := List.forall_mem_cons.mp h
      rw [values_cons hc, List.foldl_cons, Nat.ofDigitChars_cons, ih hcs]

theorem number_values (h : ∀ c ∈ cs, c.isDigit = true) :
    number (values cs) = Nat.ofDigitChars 10 cs 0 :=
  foldl_values h 0

theorem values_eq_nil_iff (h : ∀ c ∈ cs, c.isDigit = true) : values cs = [] ↔ cs = [] := by
  cases cs with
  | nil => exact iff_of_true rfl rfl
  | cons c cs =>
      rw [values_cons (h c List.mem_cons_self)]
      exact iff_of_false (List.cons_ne_nil _ _) (List.cons_ne_nil _ _)

theorem eq_zero_iff (h : c.isDigit = true) : c.toNat - '0'.toNat = 0 ↔ c = '0' := by
  have hlow : '0'.toNat ≤ c.toNat := (Char.isDigit_iff_toNat.mp h).1
  constructor
  · intro hc
    exact Char.toNat_inj.mp (Nat.le_antisymm (Nat.sub_eq_zero_iff_le.mp hc) hlow)
  · rintro rfl
    rfl

theorem hasLeadingZero_eq_false_iff {ds : List Nat} :
    hasLeadingZero ds = false ↔ (ds.head? = some 0 → ds = [0]) := by
  unfold hasLeadingZero
  split
  · simp
  · next hzero =>
    refine iff_of_true rfl fun hhead => ?_
    match ds, hhead with
    | [d], hhead => exact congrArg ([·]) (Option.some.inj hhead)
    | d :: e :: ds, hhead => exact absurd (Option.some.inj hhead ▸ rfl) (hzero e ds)

/-- A row has no leading zero unless it starts with the digit zero and goes on. -/
theorem hasLeadingZero_values (h : ∀ c ∈ cs, c.isDigit = true) :
    hasLeadingZero (values cs) = false ↔ (cs.head? = some '0' → cs = ['0']) := by
  rw [hasLeadingZero_eq_false_iff]
  cases cs with
  | nil => exact iff_of_true nofun nofun
  | cons c cs =>
      obtain ⟨hc, hcs⟩ := List.forall_mem_cons.mp h
      rw [values_cons hc]
      simp only [List.head?_cons, Option.some.injEq, List.cons.injEq, eq_zero_iff hc,
        values_eq_nil_iff hcs]

end Digit

/-! ## Digits of a number

The digits of a number are those of `Nat.toDigits`: none for a zero in front, and one for zero
itself. -/

namespace Decimal

open Digit (values number hasLeadingZero)

theorem digits_eq (n : Nat) : digits n = Nat.toDigits 10 n := by
  rw [digits, Nat.repr_eq_ofList_toDigits, String.toList_ofList]

theorem digits_ne_nil (n : Nat) : digits n ≠ [] := by
  rw [digits_eq]
  exact Nat.toDigits_ne_nil

theorem isDigit_of_mem_digits {n : Nat} (h : c ∈ digits n) : c.isDigit = true := by
  rw [digits_eq] at h
  exact Nat.isDigit_of_mem_toDigits (by decide) (by decide) h

theorem number_values_digits (n : Nat) : number (values (digits n)) = n := by
  rw [Digit.number_values fun c => isDigit_of_mem_digits, digits_eq]
  exact Nat.ofDigitChars_ten_toDigits

theorem digits_injective : Function.Injective digits :=
  Function.LeftInverse.injective (g := fun cs => number (values cs)) number_values_digits

/-- Only zero starts with the digit zero. -/
theorem eq_zero_of_head? {n : Nat} (h : (digits n).head? = some '0') : n = 0 := by
  induction n using Nat.strongRecOn with
  | _ n ih =>
      rw [digits_eq, Nat.toDigits_eq_if (by decide)] at h
      split at h
      · next hn =>
        interval_cases n
        all_goals first | rfl | cases h
      · next hn =>
        rw [List.head?_append_of_ne_nil _ Nat.toDigits_ne_nil, ← digits_eq] at h
        have := ih (n / 10) (by omega) h
        omega

theorem hasLeadingZero_digits (n : Nat) : hasLeadingZero (values (digits n)) = false := by
  rw [Digit.hasLeadingZero_values fun c => isDigit_of_mem_digits]
  intro h
  rw [eq_zero_of_head? h]
  rfl

theorem toDigits_of_isDigit (h : c.isDigit = true) :
    Nat.toDigits 10 (c.toNat - '0'.toNat) = [c] := by
  have hlow : '0'.toNat ≤ c.toNat := (Char.isDigit_iff_toNat.mp h).1
  have hlt := Digit.digit_lt_ten h
  rw [Nat.toDigits_of_lt_base hlt]
  congr 1
  apply Char.toNat_inj.mp
  rw [Nat.toNat_digitChar_of_lt_ten hlt]
  exact Nat.add_sub_cancel' hlow

/-- Digits behind those of a positive number go on writing. -/
theorem toDigits_append {n : Nat} (hn : 0 < n) (h : ∀ c ∈ cs, c.isDigit = true) :
    Nat.toDigits 10 n ++ cs = Nat.toDigits 10 (Nat.ofDigitChars 10 cs n) := by
  induction cs generalizing n with
  | nil => rw [List.append_nil, Nat.ofDigitChars_nil]
  | cons c cs ih =>
      obtain ⟨hc, hcs⟩ := List.forall_mem_cons.mp h
      calc Nat.toDigits 10 n ++ c :: cs
          = Nat.toDigits 10 n ++ Nat.toDigits 10 (c.toNat - '0'.toNat) ++ cs := by
            rw [toDigits_of_isDigit hc, List.append_assoc, List.singleton_append]
        _ = Nat.toDigits 10 (10 * n + (c.toNat - '0'.toNat)) ++ cs := by
            rw [Nat.toDigits_append_toDigits (by decide) hn (Digit.digit_lt_ten hc)]
        _ = Nat.toDigits 10 (Nat.ofDigitChars 10 (c :: cs) n) := by
            rw [ih (by omega) hcs, Nat.ofDigitChars_cons]

/-- A row of digits without a leading zero is the digits of the number that it writes. -/
theorem digits_number_values (hdigits : ∀ c ∈ cs, c.isDigit = true) (hne : cs ≠ [])
    (hzero : hasLeadingZero (values cs) = false) : digits (number (values cs)) = cs := by
  rw [Digit.hasLeadingZero_values hdigits] at hzero
  rw [Digit.number_values hdigits, digits_eq]
  cases cs with
  | nil => exact absurd rfl hne
  | cons c cs =>
      obtain ⟨hc, hcs⟩ := List.forall_mem_cons.mp hdigits
      by_cases hc0 : c = '0'
      · rw [hzero (congrArg some hc0)]
        rfl
      · have hpos : 0 < c.toNat - '0'.toNat :=
          Nat.pos_of_ne_zero (mt (Digit.eq_zero_iff hc).mp hc0)
        rw [Nat.ofDigitChars_cons, Nat.mul_zero, Nat.zero_add, ← toDigits_append hpos hcs,
          toDigits_of_isDigit hc, List.singleton_append]

end Decimal
end FeatureFlags
