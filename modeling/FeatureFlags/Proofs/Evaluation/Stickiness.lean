import FeatureFlags.Proofs.Evaluation.Reading

/-! # Assignments are sticky

A rollout reads one attribute of a context, so contexts with the same attribute are served the same,
whatever form they have.

* **Key and salt** — beside the attribute a rollout hashes the flag's key and salt, or only the seed
  if there is one, so that a seeded rollout serves alike in every flag.
* **Attribute** — an experiment reads the key, so it does not matter by which attribute it says to
  bucket.
* **Other parts** — of a context only the part of the rollout's kind counts.

All of this is one statement about two runs (`Serving.variationFor_sticky`), in which context, key
and salt, and attribute are exchanged one after the other. -/

namespace FeatureFlags

section Seeded

variable {seed : Option Int64} {flagKey flagKey' salt salt' : String}

namespace Bucket

/-- With a seed neither the key nor the salt is hashed. -/
theorem hashInput_eq_of_seed (h : seed.isSome ∨ flagKey = flagKey' ∧ salt = salt') (id : String) :
    hashInput flagKey salt seed id = hashInput flagKey' salt' seed id := by
  rcases h with h | ⟨rfl, rfl⟩
  · obtain ⟨n, rfl⟩ := Option.isSome_iff_exists.mp h
    rfl
  · rfl

theorem ofContext_eq_of_seed (h : seed.isSome ∨ flagKey = flagKey' ∧ salt = salt') (c : Context)
    (reference : Reference) (kind : Option String) :
    ofContext c flagKey reference salt seed kind
      = ofContext c flagKey' reference salt' seed kind := by
  have htext : ofText flagKey salt seed = ofText flagKey' salt' seed := by
    funext id
    unfold ofText
    rw [hashInput_eq_of_seed h]
  unfold ofContext
  rw [htext]

end Bucket
end Seeded

/-! ## Exchanging what does not count

Each exchange is an equation between what is served before and after it. -/

section Exchange

variable {r : Rollout} {c : Context} {flagKey flagKey' salt salt' : String}

/-- A seeded rollout serves alike in every flag. -/
theorem Serving.variationFor_eq_of_seed
    (h : r.seed.isSome ∨ flagKey = flagKey' ∧ salt = salt') :
    (spread r).variationFor c flagKey salt = (spread r).variationFor c flagKey' salt' := by
  unfold variationFor spread
  dsimp only
  rw [Bucket.ofContext_eq_of_seed h]

/-- Experiments bucket by the key, whatever attribute they name. -/
theorem Rollout.bucketReference_eq_of_experiment {bucketBy : Option Reference}
    (h : r.kind = .experiment ∨ bucketBy = r.bucketBy) :
    { r with bucketBy }.bucketReference = r.bucketReference := by
  rcases h with h | rfl
  · unfold bucketReference
    rw [if_pos h, if_pos h]
  · rfl

theorem Serving.variationFor_eq_of_experiment {bucketBy : Option Reference}
    (h : r.kind = .experiment ∨ bucketBy = r.bucketBy) :
    (spread { r with bucketBy }).variationFor c flagKey salt
      = (spread r).variationFor c flagKey salt := by
  unfold variationFor spread
  dsimp only
  rw [Rollout.bucketReference_eq_of_experiment h]
  rfl

end Exchange

/-- **Assignments are sticky.** Let two contexts both have a part of the rollout's kind, or neither
of them, and let the attribute to bucket by be the same in both: the key for experiments and where
no other is named. Then a rollout gives the same for both, be it a variation, with whether it counts
for an experiment, or an error. An experiment may name another attribute to bucket by in the second
run, even an invalid one. A rollout with a seed may stand in a flag of another key and salt
there. -/
theorem Serving.variationFor_sticky (r : Rollout) (bucketBy : Option Reference) (c d : Context)
    (flagKey flagKey' salt salt' : String)
    (hpart : (c.part? (r.contextKind.getD Context.defaultKind)).isNone
      = (d.part? (r.contextKind.getD Context.defaultKind)).isNone)
    (hvalue : c.value? (r.contextKind.getD Context.defaultKind) r.bucketReference
      = d.value? (r.contextKind.getD Context.defaultKind) r.bucketReference)
    (hbucketBy : r.kind = .experiment ∨ bucketBy = r.bucketBy)
    (hseed : r.seed.isSome ∨ flagKey = flagKey' ∧ salt = salt') :
    (spread r).variationFor c flagKey salt
      = (spread { r with bucketBy }).variationFor d flagKey' salt' := by
  have hreads : ∀ read ∈ (spread r).reads, c.LooksAlikeOn d read := by
    intro read hread
    obtain rfl : read = .value (r.contextKind.getD Context.defaultKind) r.bucketReference :=
      List.mem_singleton.mp hread
    have hagrees : c.AgreesOn d
        (.value (r.contextKind.getD Context.defaultKind) r.bucketReference) := ⟨hpart, hvalue⟩
    exact hagrees.looksAlikeOn
  calc (spread r).variationFor c flagKey salt
      _ = (spread r).variationFor d flagKey salt := variationFor_congr hreads flagKey salt
      _ = (spread r).variationFor d flagKey' salt' := variationFor_eq_of_seed hseed
      _ = (spread { r with bucketBy }).variationFor d flagKey' salt' :=
        (variationFor_eq_of_experiment hbucketBy).symm

/-- A legacy user and the user among several parts, with one key, in two flags. -/
theorem Serving.variationFor_sticky_acrossForms :
    let r : Rollout := ⟨.experiment, none, none, some 61, [⟨0, 60000, false⟩, ⟨1, 40000, true⟩]⟩
    let c : Context := ⟨[("key", .string "u"), ("name", .string "n")], true⟩
    let d : Context := ⟨[("kind", .string "multi"), ("org", .object [("key", .string "o")]),
      ("user", .object [("key", .string "u")])], false⟩
    (c.part? "user").isNone = (d.part? "user").isNone ∧
      c.value? "user" r.bucketReference = d.value? "user" r.bucketReference ∧
      Reference.isValid ⟨"//"⟩ = false ∧
      (spread r).variationFor c "flag" "salt"
        = (spread { r with bucketBy := some ⟨"//"⟩ }).variationFor d "other" "pepper" := by
  intro r c d
  have hpart : (c.part? "user").isNone = (d.part? "user").isNone := by decide
  have hc : c.value? "user" ⟨"key"⟩ = some (.string "u") := rfl
  have hd : d.value? "user" ⟨"key"⟩ = some (.string "u") := rfl
  have hvalue : c.value? "user" r.bucketReference = d.value? "user" r.bucketReference :=
    hc.trans hd.symm
  exact ⟨hpart, hvalue, by decide,
    variationFor_sticky r (some ⟨"//"⟩) c d "flag" "other" "salt" "pepper" hpart hvalue (.inl rfl)
      (.inl rfl)⟩

end FeatureFlags
