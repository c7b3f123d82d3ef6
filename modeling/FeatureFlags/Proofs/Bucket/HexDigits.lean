import Mathlib.Data.List.Induction
import Mathlib.Data.Nat.Bitwise
import FeatureFlags.Bucket
import FeatureFlags.Text.Digit

/-! # The leading digits of a digest

A bucket comes from the first fifteen hexadecimal digits of a digest. They are not read off a text:
the first eight bytes are packed into one word of 64 bits, and the last half byte is cut off. Here
the two are compared digit by digit.

* **Packing** (`toNat_packed`) — up to eight bytes fit into a word, and no shift on the way pushes a
  bit out of it.
* **Two digits a byte** (`hexValue_halves`) — the digits of the halves write the number that the
  bytes write.
* **Cutting off** (`hexValue_take`) — without its last digit a number is divided by sixteen, which
  is a shift by four bits.

Together they say that the word holds the number that the text writes (`leadingDigits_eq_hex`). -/

namespace FeatureFlags

/-! ## Hexadecimal text

The text is read one digit after the other, the most significant one first. -/

namespace Digit

/-- The number that the values of hexadecimal digits write, most significant first. -/
def hexValue (ds : List Nat) : Nat := ds.foldl (fun n d => 16 * n + d) 0

def hexNumber? (cs : List Char) : Option Nat := (cs.mapM hexadecimal?).map hexValue

theorem hexadecimal?_ofValue {d : Nat} (h : d < 16) : hexadecimal? (ofValue d) = some d := by
  have hall : ∀ d < 16, hexadecimal? (ofValue d) = some d := by decide
  exact hall d h

/-- Digits are read as what they were written from. -/
theorem hexNumber?_map_ofValue {ds : List Nat} (h : ∀ d ∈ ds, d < 16) :
    hexNumber? (ds.map ofValue) = some (hexValue ds) := by
  have hread : (ds.map ofValue).mapM hexadecimal? = some ds := by
    induction ds with
    | nil => rfl
    | cons d ds ih =>
        obtain ⟨hd, hds⟩ := List.forall_mem_cons.mp h
        rw [List.map_cons, List.mapM_cons, hexadecimal?_ofValue hd, ih hds]
        rfl
  rw [hexNumber?, hread, Option.map_some]

/-- Without its last digit a number is divided by sixteen. -/
theorem hexValue_take {ds : List Nat} (h : ∀ d ∈ ds, d < 16) {count : Nat}
    (hcount : count < ds.length) :
    hexValue (ds.take count) = hexValue (ds.take (count + 1)) / 16 := by
  have hlast : ds[count] < 16 := h _ (List.getElem_mem hcount)
  have hsplit : ds.take (count + 1) = ds.take count ++ [ds[count]] :=
    (List.take_append_getElem hcount).symm
  rw [hsplit]
  unfold hexValue
  rw [List.foldl_append, List.foldl_cons, List.foldl_nil]
  omega

end Digit

/-! ## Bytes

Bytes are numbers in base 256, and their halves are the same numbers in base sixteen (`halves`). The
high half comes first, in the text as in the word. -/

namespace Digest

def halves (bytes : List UInt8) : List Nat :=
  bytes.flatMap fun byte => [byte.toNat / 16, byte.toNat % 16]

/-- Bytes as text: two lower-case hexadecimal digits each. -/
def hex (bytes : List UInt8) : List Char := (halves bytes).map Digit.ofValue

def value (bytes : List UInt8) : Nat := bytes.foldl (fun n byte => 256 * n + byte.toNat) 0

theorem halves_cons (byte : UInt8) (bytes : List UInt8) :
    halves (byte :: bytes) = byte.toNat / 16 :: byte.toNat % 16 :: halves bytes := rfl

theorem lt_of_mem_halves {bytes : List UInt8} {d : Nat} (h : d ∈ halves bytes) : d < 16 := by
  obtain ⟨byte, -, hd⟩ := List.mem_flatMap.mp h
  have hbyte : byte.toNat < 256 := byte.toNat_lt
  rcases List.mem_cons.mp hd with rfl | hd
  · omega
  · obtain rfl := List.mem_singleton.mp hd
    omega

theorem length_halves (bytes : List UInt8) : (halves bytes).length = 2 * bytes.length := by
  induction bytes with
  | nil => rfl
  | cons byte bytes ih =>
      simp only [halves_cons, List.length_cons, ih]
      omega

/-- The first bytes are the first pairs of digits. -/
theorem take_halves (bytes : List UInt8) (count : Nat) :
    (halves bytes).take (2 * count) = halves (bytes.take count) := by
  induction count generalizing bytes with
  | zero => rfl
  | succ count ih =>
      cases bytes with
      | nil => rfl
      | cons byte bytes =>
          rw [Nat.mul_succ, halves_cons, List.take_succ_cons, List.take_succ_cons, ih,
            List.take_succ_cons, halves_cons]

/-- Two digits for each byte write the same number. -/
theorem hexValue_halves (bytes : List UInt8) : Digit.hexValue (halves bytes) = value bytes := by
  suffices ∀ n, (halves bytes).foldl (fun n d => 16 * n + d) n
      = bytes.foldl (fun n byte => 256 * n + byte.toNat) n from this 0
  induction bytes with
  | nil => exact fun n => rfl
  | cons byte bytes ih =>
      intro n
      have hbyte : 16 * (16 * n + byte.toNat / 16) + byte.toNat % 16 = 256 * n + byte.toNat := by
        omega
      rw [halves_cons, List.foldl_cons, List.foldl_cons, List.foldl_cons, hbyte, ih]

theorem length_bigEndian (count n : Nat) : (bigEndian count n).length = count := by
  simp [bigEndian]

/-- A digest has twenty bytes. -/
theorem length_sha1 (message : List UInt8) : (sha1 message).length = 20 := by
  unfold sha1 State.toBytes
  simp [length_bigEndian]

end Digest

/-! ## Bytes in a word

A word takes in one byte after the other (`packed`): it is shifted, and the byte goes into the bits
that have become free. As long as no more than seven bytes are in it, nothing is shifted out. -/

namespace Bucket

open Digest (hex halves value)

def packed (bytes : List UInt8) : UInt64 :=
  bytes.foldl (fun (n : UInt64) byte => (n <<< 8) ||| byte.toUInt64) 0

theorem packed_concat (bytes : List UInt8) (byte : UInt8) :
    packed (bytes ++ [byte]) = (packed bytes <<< 8) ||| byte.toUInt64 := by
  rw [packed, List.foldl_append]
  rfl

theorem value_concat (bytes : List UInt8) (byte : UInt8) :
    value (bytes ++ [byte]) = 256 * value bytes + byte.toNat := by
  rw [value, List.foldl_append]
  rfl

theorem leadingDigits_eq_packed (digest : List UInt8) :
    leadingDigits digest = (packed (digest.take 8) >>> 4).toNat := rfl

/-- A word whose first byte is free is shifted as a whole. -/
theorem toNat_shiftLeft_eight {n : UInt64} (h : n.toNat < 2 ^ 56) :
    (n <<< 8).toNat = 256 * n.toNat := by
  rw [UInt64.toNat_shiftLeft, show (8 : UInt64).toNat % 64 = 8 from rfl, Nat.shiftLeft_eq]
  omega

/-- One more byte goes into the bits that the shift has freed. -/
theorem toNat_shiftLeft_or {n : UInt64} (h : n.toNat < 2 ^ 56) (byte : UInt8) :
    ((n <<< 8) ||| byte.toUInt64).toNat = 256 * n.toNat + byte.toNat := by
  have hbyte : byte.toNat < 2 ^ 8 := byte.toNat_lt
  have hshift : 256 * n.toNat = n.toNat <<< 8 := by
    rw [Nat.shiftLeft_eq]
    omega
  rw [UInt64.toNat_or, toNat_shiftLeft_eight h, UInt8.toNat_toUInt64, hshift,
    ← Nat.shiftLeft_add_eq_or_of_lt hbyte]

theorem value_lt (bytes : List UInt8) : value bytes < 256 ^ bytes.length := by
  induction bytes using List.reverseRecOn with
  | nil => exact Nat.one_pos
  | append_singleton bytes byte ih =>
      have hbyte : byte.toNat < 256 := byte.toNat_lt
      rw [value_concat, List.length_append, List.length_singleton, pow_succ]
      omega

/-- Seven bytes leave the first byte of a word free. -/
theorem value_lt_of_length {bytes : List UInt8} (h : bytes.length ≤ 7) :
    value bytes < 2 ^ 56 :=
  calc value bytes < 256 ^ bytes.length := value_lt bytes
    _ ≤ 256 ^ 7 := Nat.pow_le_pow_right (by decide) h
    _ = 2 ^ 56 := by decide

/-- Up to eight bytes are packed without loss. -/
theorem toNat_packed {bytes : List UInt8} (h : bytes.length ≤ 8) :
    (packed bytes).toNat = value bytes := by
  induction bytes using List.reverseRecOn with
  | nil => rfl
  | append_singleton bytes byte ih =>
      rw [List.length_append, List.length_singleton] at h
      have hbound : value bytes < 2 ^ 56 := value_lt_of_length (by omega)
      have hpacked : (packed bytes).toNat = value bytes := ih (by omega)
      rw [packed_concat, toNat_shiftLeft_or (hpacked ▸ hbound), hpacked, value_concat]

/-- The word without its last four bits is the number of the first fifteen digits. -/
theorem hexNumber?_take_hex {digest : List UInt8} (h : 8 ≤ digest.length) :
    Digit.hexNumber? ((hex digest).take 15) = some (leadingDigits digest) := by
  have hsmall : ∀ d ∈ halves digest, d < 16 := fun d => Digest.lt_of_mem_halves
  have hlength : 15 < (halves digest).length := by
    rw [Digest.length_halves]
    omega
  have hnumber : Digit.hexValue ((halves digest).take 15) = leadingDigits digest :=
    calc Digit.hexValue ((halves digest).take 15)
        = Digit.hexValue ((halves digest).take (2 * 8)) / 16 := Digit.hexValue_take hsmall hlength
      _ = value (digest.take 8) / 16 := by rw [Digest.take_halves, Digest.hexValue_halves]
      _ = (packed (digest.take 8)).toNat / 16 := by
        rw [toNat_packed (List.length_take_le 8 digest)]
      _ = leadingDigits digest := by
        rw [leadingDigits_eq_packed, UInt64.toNat_shiftRight, Nat.shiftRight_eq_div_pow]
        rfl
  rw [hex, ← List.map_take, ← hnumber]
  exact Digit.hexNumber?_map_ofValue fun d hd => hsmall d (List.mem_of_mem_take hd)

/-- **Leading digits.** What is taken from a digest is the number that the first fifteen of its
hexadecimal digits write, most significant first. On the way no shift pushes a bit out of the word,
so that the word holds the number that the first eight bytes write, and only its last half byte is
cut off. -/
theorem leadingDigits_eq_hex (digest : List UInt8) (h : digest.length = 20) :
    Digit.hexNumber? ((hex digest).take 15) = some (leadingDigits digest) ∧
      leadingDigits digest = (packed (digest.take 8) >>> 4).toNat ∧
      (∀ count < 8, (packed (digest.take count) <<< 8).toNat
        = 256 * (packed (digest.take count)).toNat) ∧
      ∀ count ≤ 8, (packed (digest.take count)).toNat = value (digest.take count) := by
  have hpacked : ∀ count ≤ 8, (packed (digest.take count)).toNat = value (digest.take count) :=
    fun count hcount => toNat_packed ((List.length_take_le count digest).trans hcount)
  refine ⟨hexNumber?_take_hex (by omega), rfl, fun count hcount => ?_, hpacked⟩
  have hlength : (digest.take count).length ≤ 7 :=
    (List.length_take_le count digest).trans (Nat.le_of_lt_succ hcount)
  refine toNat_shiftLeft_eight ?_
  rw [hpacked count hcount.le]
  exact value_lt_of_length hlength

/-- The digest of a text of three letters begins with these digits. -/
theorem leadingDigits_eq_hex_abc :
    let digest := Digest.sha1 "abc".toUTF8.toList
    digest.length = 20 ∧ (hex digest).take 15 = "a9993e364706816".toList ∧
      leadingDigits digest = 0xa9993e364706816 := by
  intro digest
  have hlength : digest.length = 20 := Digest.length_sha1 _
  have hdigits : (hex digest).take 15 = "a9993e364706816".toList := by decide +kernel
  obtain ⟨hread, -⟩ := leadingDigits_eq_hex digest hlength
  rw [hdigits] at hread
  exact ⟨hlength, hdigits, (Option.some.inj hread).symm⟩

end Bucket
end FeatureFlags
