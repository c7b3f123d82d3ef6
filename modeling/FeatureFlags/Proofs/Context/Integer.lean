import Mathlib
import FeatureFlags.Bucket
import FeatureFlags.Proofs.Context.Valid
import FeatureFlags.Proofs.Number.Whole

/-! # Integers in place of texts

The key of a legacy user and the attribute to bucket by may be integers, which stand for their
decimal text. This holds as far as the signed integers of 64 bits go. Beyond, an integer is rounded
to a floating-point number first, and two things can happen to it.

* **Near 2^63** it is rounded to this power and then cut off at 2^63 - 1, so it stands for the text
  of that integer. Users with such keys become one (`ofJson_of_integerKey`).
* **Further up** no integer stands in for it. As a key it keeps its own text, but it has no text to
  bucket by (`ofContext_of_integer`).

Which integer stands in for which is `Number.standIn?`, and `AtLimit` are those near 2^63. -/

namespace FeatureFlags

open Binary64 (greatest lastAtLimit)
open Number (AtLimit InRange standIn?)

variable {m n : Int}

/-! ## Buckets

A bucket depends on the context only through the attribute to bucket by and the secondary key, so it
is enough to compare these. -/

namespace Bucket

theorem bucketText?_ofInt (h : InRange n) :
    bucketText? (.ofInt n) = (standIn? n).map Int.repr := by
  rw [Json.ofInt, bucketText?, Number.whole?_int h]
  simp only [Json.ofList_renderInt]

theorem bucketText?_ofInt_eq_iff (h : InRange n) :
    bucketText? (.ofInt n) = bucketText? (.string n.repr) ↔ n ≤ greatest := by
  rw [bucketText?_ofInt h, ← Number.standIn?_eq_self_iff]
  show (standIn? n).map Int.repr = some n.repr ↔ standIn? n = some n
  cases standIn? n with
  | none => exact iff_of_false nofun nofun
  | some i => rw [Option.map_some, Option.some.injEq, Option.some.injEq, Int.repr_inj]

/-- Two values are the same, or the integer and its decimal text. -/
def SameButText (n : Int) (v w : Json) : Prop := v = w ∨ v = .ofInt n ∧ w = .string n.repr

theorem ofContext_eq_of_sameButText (hn : InRange n) (hle : n ≤ greatest) {c d : Context}
    {r s : Reference} {kind : Option String}
    (hpart : (c.part? (kind.getD Context.defaultKind)).isNone
      = (d.part? (kind.getD Context.defaultKind)).isNone)
    (hvalue : Option.Rel (SameButText n) (c.value? (kind.getD Context.defaultKind) r)
      (d.value? (kind.getD Context.defaultKind) s))
    (key salt : String) (seed : Option Int64) :
    ofContext c key r salt seed kind = ofContext d key s salt seed kind := by
  refine ofContext_eq_of_text hpart ?_ key salt seed
  generalize c.value? _ r = v at hvalue
  generalize d.value? _ s = w at hvalue
  cases hvalue with
  | none => rfl
  | some h =>
      obtain rfl | ⟨rfl, rfl⟩ := h
      · rfl
      · exact (bucketText?_ofInt_eq_iff hn).mpr hle

/-- **Integers to bucket by.** An integer gives the same text to bucket by as its decimal text
exactly as far as the signed integers of 64 bits go. Contexts that are alike but for such an integer
and its text, under whatever references, have the same buckets for each kind, flag and seed. Beyond,
the integers that are rounded to 2^63 have the bucket of the text of 2^63 - 1, and the others have
the first bucket. -/
theorem ofContext_of_integer (hn : InRange n) :
    (bucketText? (.ofInt n) = bucketText? (.string n.repr) ↔ n ≤ greatest) ∧
    ∀ (c d : Context) (r s : Reference) (key salt : String) (seed : Option Int64)
      (kind : Option String),
      let k := kind.getD Context.defaultKind
      (n ≤ greatest → (c.part? k).isNone = (d.part? k).isNone →
        Option.Rel (SameButText n) (c.value? k r) (d.value? k s) →
          ofContext c key r salt seed kind = ofContext d key s salt seed kind) ∧
      (greatest < n → c.value? k r = some (.ofInt n) →
        ofContext c key r salt seed kind
          = if n ≤ lastAtLimit then (ofText key salt seed greatest.repr, true) else (0, true)) := by
  refine ⟨bucketText?_ofInt_eq_iff hn, fun c d r s key salt seed kind => ⟨?_, ?_⟩⟩
  · intro hle hpart hvalue
    exact ofContext_eq_of_sameButText hn hle hpart hvalue key salt seed
  · intro hlt hvalue
    rw [ofContext_of_value? hvalue, bucketText?_ofInt hn, standIn?, if_neg (Int.not_le.mpr hlt)]
    split <;> rfl

/-- The integer of an attribute has the bucket of its text. The last integer that is rounded to 2^63
has the bucket of the text of 2^63 - 1. -/
theorem ofContext_of_integer_attribute :
    let c : Context := ⟨[("key", .string "u"), ("intAttr", .ofInt 33333)], true⟩
    let d : Context := ⟨[("key", .string "u"), ("stringAttr", .string "33333")], true⟩
    let e : Context := ⟨[("key", .string "u"), ("intAttr", .ofInt lastAtLimit)], true⟩
    InRange 33333 ∧ InRange lastAtLimit ∧
      ofContext c "hashKey" ⟨"intAttr"⟩ "saltyA" none none
        = ofContext d "hashKey" ⟨"stringAttr"⟩ "saltyA" none none ∧
      ofContext e "hashKey" ⟨"intAttr"⟩ "saltyA" none none
        = (ofText "hashKey" "saltyA" none "9223372036854775807", true) := by
  intro c d e
  have hn : InRange 33333 := by decide
  have hlast : InRange lastAtLimit := by decide
  have hc : c.value? "user" ⟨"intAttr"⟩ = some (.ofInt 33333) := rfl
  have hd : d.value? "user" ⟨"stringAttr"⟩ = some (.string "33333") := rfl
  have he : e.value? "user" ⟨"intAttr"⟩ = some (.ofInt lastAtLimit) := rfl
  refine ⟨hn, hlast, ?_, ?_⟩
  · obtain ⟨-, h⟩ := ofContext_of_integer hn
    obtain ⟨h, -⟩ := h c d ⟨"intAttr"⟩ ⟨"stringAttr"⟩ "hashKey" "saltyA" none none
    refine h (by decide) rfl ?_
    show Option.Rel _ (c.value? "user" _) (d.value? "user" _)
    rw [hc, hd]
    exact .some (.inr ⟨rfl, rfl⟩)
  · obtain ⟨-, h⟩ := ofContext_of_integer hlast
    obtain ⟨-, h⟩ := h e e ⟨"intAttr"⟩ ⟨"intAttr"⟩ "hashKey" "saltyA" none none
    exact h (by decide) he

/-- Above 2^63 - 1 an integer is bucketed by the text of another one, or not at all. -/
theorem text_of_integer_ne :
    bucketText? (.ofInt 9223372036854775808) = some "9223372036854775807" ∧
      bucketText? (.ofInt 18446744073709551615) = none ∧
      ¬ ∀ n : Int, InRange n → bucketText? (.ofInt n) = bucketText? (.string n.repr) := by
  refine ⟨?_, ?_, fun h => ?_⟩
  · rw [bucketText?_ofInt (by decide)]
    rfl
  · rw [bucketText?_ofInt (by decide)]
    rfl
  · have hle := (bucketText?_ofInt_eq_iff (by decide)).mp (h 9223372036854775808 (by decide))
    exact absurd hle (by decide)

end Bucket

/-! ## Keys of legacy users

Only a value without a kind may have a key that is no text. Its key is replaced by the text, and two
such values can become contexts of the same key. -/

namespace Context

theorem legacyKey_ofInt (h : InRange n) : legacyKey (.ofInt n) = ((standIn? n).getD n).repr := by
  rw [legacyKey, Json.ofInt, keyText?, Number.whole?_int h]
  cases standIn? n with
  | none => exact Json.ofList_renderInt n
  | some i => exact Json.ofList_renderInt i

/-- A legacy user has the text of its key in place of the key, and nothing else changes. -/
theorem ofJson_of_isLegacy {members : Entries Json} {key : Json}
    (hlegacy : isLegacy members = true) (hkey : Entries.find? "key" members = some key)
    (hnull : key ≠ .null) :
    ofJson (.object members)
      = .ok ⟨Entries.insert "key" (.string (legacyKey key)) members, true⟩ := by
  have hvalid : validate members true = .ok () := by
    unfold validate
    rw [kind_eq_null hlegacy, hkey]
    cases key with
    | null => exact absurd rfl hnull
    | bool | number | string | array | object => rfl
  rw [ofJson_object, hvalid, if_pos hlegacy, hkey]
  rfl

theorem key?_insert (members : Entries Json) (key : String) :
    key? ⟨Entries.insert "key" (.string key) members, true⟩ defaultKind = some key := by
  show (Entries.find? "key" (Entries.insert "key" (.string key) members)).bind _ = _
  rw [Entries.find?_insert_self]
  rfl

theorem exists_ofJson_of_integer {members : Entries Json} (hn : InRange n)
    (hlegacy : isLegacy members = true) (hkey : Entries.find? "key" members = some (.ofInt n)) :
    ∃ c, ofJson (.object members) = .ok c ∧
      c.key? defaultKind = some ((standIn? n).getD n).repr := by
  refine ⟨_, ofJson_of_isLegacy hlegacy hkey nofun, ?_⟩
  rw [key?_insert, legacyKey_ofInt hn]

/-- **Integers as keys.** A legacy user with an integer as its key is a context, whatever else it
holds, and its key is the decimal text of the integer, unless that lies above 2^63 - 1 and is
rounded to 2^63: then it is the text of 2^63 - 1. So users with different keys become the same key
exactly if both keys lie there. -/
theorem ofJson_of_integerKey {members others : Entries Json} (hm : InRange m) (hn : InRange n)
    (hlegacy : isLegacy members = true) (hlegacy' : isLegacy others = true)
    (hkey : Entries.find? "key" members = some (.ofInt m))
    (hkey' : Entries.find? "key" others = some (.ofInt n)) :
    ∃ c d, ofJson (.object members) = .ok c ∧ ofJson (.object others) = .ok d ∧
      c.key? defaultKind = some (if AtLimit m then greatest else m).repr ∧
      (c.key? defaultKind = some m.repr ↔ m ≤ greatest ∨ lastAtLimit < m) ∧
      (c.key? defaultKind = d.key? defaultKind ↔ m = n ∨ AtLimit m ∧ AtLimit n) := by
  obtain ⟨c, hc, hckey⟩ := exists_ofJson_of_integer hm hlegacy hkey
  obtain ⟨d, hd, hdkey⟩ := exists_ofJson_of_integer hn hlegacy' hkey'
  refine ⟨c, d, hc, hd, ?_, ?_, ?_⟩
  · rw [hckey, Number.getD_standIn?]
  · rw [hckey, Number.getD_standIn?, Option.some.injEq, Int.repr_inj]
    split
    all_goals
      unfold AtLimit greatest lastAtLimit at *
      omega
  · rw [hckey, hdkey, Option.some.injEq, Int.repr_inj, Number.getD_standIn?_eq_iff]

/-- Of two users whose keys follow each other, the one with the greater key becomes the other. -/
theorem ofJson_of_integerKey_limit :
    let m : Int := 9223372036854775808
    let n : Int := 9223372036854775807
    let members : Entries Json := [("key", .ofInt m)]
    let others : Entries Json := [("kind", .null), ("name", .string "x"), ("key", .ofInt n)]
    InRange m ∧ InRange n ∧
      ∃ c d, ofJson (.object members) = .ok c ∧ ofJson (.object others) = .ok d ∧
        c.key? defaultKind = some "9223372036854775807" ∧
        c.key? defaultKind = d.key? defaultKind := by
  intro m n members others
  have hm : InRange m := by decide
  have hn : InRange n := by decide
  have hlegacy : isLegacy members = true := rfl
  have hlegacy' : isLegacy others = true := rfl
  have hfind : Entries.find? "key" members = some (.ofInt m) := rfl
  have hfind' : Entries.find? "key" others = some (.ofInt n) := rfl
  obtain ⟨c, d, hc, hd, hkey, -, heq⟩ :=
    ofJson_of_integerKey hm hn hlegacy hlegacy' hfind hfind'
  exact ⟨hm, hn, c, d, hc, hd, hkey, heq.mpr (.inr ⟨by decide, by decide⟩)⟩

/-- The key 2^63 of a legacy user is not kept: the context is that of the key 2^63 - 1. -/
theorem ofJson_integerKeys_collide :
    let m : Int := 9223372036854775808
    let n : Int := 9223372036854775807
    ∃ c, ofJson (.object [("key", .ofInt m)]) = .ok c ∧
      ofJson (.object [("key", .ofInt n)]) = .ok c ∧
      c.key? defaultKind = some n.repr ∧ c.key? defaultKind ≠ some m.repr := by
  intro m n
  have hm : legacyKey (.ofInt m) = n.repr := by
    rw [legacyKey_ofInt (by decide)]
    rfl
  have hn : legacyKey (.ofInt n) = n.repr := by
    rw [legacyKey_ofInt (by decide)]
    rfl
  have hread : ∀ i : Int, ofJson (.object [("key", .ofInt i)])
      = .ok ⟨[("key", .string (legacyKey (.ofInt i)))], true⟩ :=
    fun _ => ofJson_of_isLegacy rfl rfl nofun
  refine ⟨⟨[("key", .string n.repr)], true⟩, ?_, ?_, rfl, ?_⟩
  · rw [hread, hm]
  · rw [hread, hn]
  · show some n.repr ≠ some m.repr
    decide

end Context
end FeatureFlags
