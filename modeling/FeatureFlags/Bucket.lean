import FeatureFlags.Context.Basic
import FeatureFlags.Digest

/-!
# Buckets

A context falls into a bucket between zero and one, which decides its share of a rollout. The way
from the context to the bucket has three steps:

* the attribute to bucket by is read as text; only texts and whole numbers have one (`bucketText?`);
* the text is put behind the flag's key and salt, or behind a seed, and digested (`hashInput`,
  `ofText`);
* the first fifteen hexadecimal digits of the digest (`leadingDigits`), as a fraction of the
  greatest such number (`scale`), are the bucket (`ofDigits`).

Both ends of the fraction are rounded to binary64 numbers before the division. The two lemmas at the
end say what a bucket depends on.
-/

namespace FeatureFlags
namespace Bucket

/-- The greatest number of fifteen hexadecimal digits. -/
def scale : Nat := 0xFFFFFFFFFFFFFFF

/-- The number that the first fifteen hexadecimal digits of a digest write: its first eight bytes
without the last four bits. -/
def leadingDigits (digest : List UInt8) : Nat :=
  (((digest.take 8).foldl (fun (n : UInt64) byte => (n <<< 8) ||| byte.toUInt64) 0) >>> 4).toNat

def ofDigits (n : Nat) : Float :=
  Float.ofNat (Binary64.roundNat n) / Float.ofNat (Binary64.roundNat scale)

/-- The text of a value that can be bucketed by: texts and whole numbers. -/
def bucketText? : Json → Option String
  | .string s => some s
  | .number n => n.whole?.map fun i => String.ofList (Json.renderInt i)
  | _ => none

def hashInput (key salt : String) (seed : Option Int64) (id : String) : String :=
  match seed with
  | some seed => String.ofList (Json.renderInt seed.toInt) ++ "." ++ id
  | none => key ++ "." ++ salt ++ "." ++ id

def ofText (key salt : String) (seed : Option Int64) (id : String) : Float :=
  ofDigits (leadingDigits (Digest.sha1 (hashInput key salt seed id).toUTF8.toList))

/-- The bucket of a context, and whether the context has a part of the kind at all. Without that
part, or with an attribute that cannot be bucketed by, the bucket is zero. -/
def ofContext (c : Context) (key : String) (reference : Reference) (salt : String)
    (seed : Option Int64) (kind : Option String) : Float × Bool :=
  let kind := kind.getD Context.defaultKind
  if (c.part? kind).isNone then (0, false)
  else
    match (c.value? kind reference).bind bucketText? with
    | some id => (ofText key salt seed id, true)
    | none => (0, true)

/-- A bucket depends on nothing but the text to bucket by and whether there is a part of the kind. -/
theorem ofContext_eq_of_text {c d : Context} {r s : Reference} {kind : Option String}
    (hpart : (c.part? (kind.getD Context.defaultKind)).isNone
      = (d.part? (kind.getD Context.defaultKind)).isNone)
    (htext : (c.value? (kind.getD Context.defaultKind) r).bind bucketText?
      = (d.value? (kind.getD Context.defaultKind) s).bind bucketText?)
    (key salt : String) (seed : Option Int64) :
    ofContext c key r salt seed kind = ofContext d key s salt seed kind := by
  unfold ofContext
  dsimp only
  rw [hpart, htext]

/-- An attribute decides its bucket alone, whatever else its context holds. -/
theorem ofContext_of_value? {c : Context} {r : Reference} {kind : Option String} {v : Json}
    (h : c.value? (kind.getD Context.defaultKind) r = some v) (key salt : String)
    (seed : Option Int64) :
    ofContext c key r salt seed kind
      = (((bucketText? v).map (ofText key salt seed)).getD 0, true) := by
  have hpart : (c.part? (kind.getD Context.defaultKind)).isNone = false := by
    cases hnone : c.part? (kind.getD Context.defaultKind) with
    | none =>
        rw [Context.value?, hnone] at h
        cases h
    | some part => rfl
  unfold ofContext
  dsimp only
  rw [hpart, h, Option.bind_some]
  cases bucketText? v <;> rfl

end Bucket
end FeatureFlags
