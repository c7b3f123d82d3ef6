import Mathlib
import FeatureFlags.Proofs.Evaluation.Selection

/-! # How shares partition the buckets

The walk along the shares of a rollout does not depend on what kind of numbers it adds up. So its
place is described once, for any numbers (`placeOf_eq_iff`): it stops at the first share that ends
behind the bucket, or at the last one.

Over exact numbers, the ends of the shares are the sums of their weights.

* **Partition** (`exactPlace_eq_iff`) — each share takes the buckets from the end of the one before
  it up to its own end, and the last one takes the rest.
* **Shares of no weight** (`exactPlace_of_weight_eq_zero`) — they take nothing, unless such a share
  is the last one and takes the rest.
* **Ramps** (`exactPlace_le_of_shareEnd_le`) — shares whose ends are all moved up take in more
  buckets from behind and lose none to the shares behind them. -/

namespace FeatureFlags

/-! ## The place of a point

Stretches of some lengths lie one behind the other. To tell where the walk stops, and not only what
stands there, they are numbered. -/

section Stretches

variable {α β : Type} [Add α] {length : β → α} {point start : α} {bs : List β}

/-- Numbering the stretches does not move their ends. -/
theorem endAt_zipIdx (place : Nat) :
    endAt (fun e : β × Nat => length e.1) start bs.zipIdx place = endAt length start bs place := by
  have hmap : (bs.zipIdx.take (place + 1)).map Prod.fst = bs.take (place + 1) := by
    rw [List.map_take, List.zipIdx_map_fst]
  unfold endAt
  rw [← hmap, List.foldl_map]

variable [LT α] [DecidableLT α]

/-- The place at which the walk along the stretches stops, the last one if it comes to nothing. -/
def placeOf (length : β → α) (start : α) (bs : List β) (point : α) : Nat :=
  ((pick (fun e => length e.1) point start bs.zipIdx).map Prod.snd).getD (bs.length - 1)

/-- The walk stops at the first stretch that ends behind the point, or else at the last one. -/
theorem placeOf_eq_iff (hne : bs ≠ []) {place : Nat} :
    placeOf length start bs point = place ↔
      (place < bs.length ∧ point < endAt length start bs place ∧
        ∀ before < place, ¬ point < endAt length start bs before) ∨
      (place + 1 = bs.length ∧ ∀ before < bs.length, ¬ point < endAt length start bs before) := by
  have hlength : 0 < bs.length := List.length_pos_of_ne_nil hne
  unfold placeOf
  -- The walk has come to nothing, or to a stretch with its number.
  cases hpick : pick (fun e : β × Nat => length e.1) point start bs.zipIdx with
  | none =>
      rw [pick_eq_none_iff, List.length_zipIdx] at hpick
      simp only [endAt_zipIdx] at hpick
      show bs.length - 1 = place ↔ _
      constructor
      · intro hplace
        exact .inr ⟨by omega, hpick⟩
      · rintro (⟨hlt, hbehind, -⟩ | ⟨hplace, -⟩)
        · exact absurd hbehind (hpick place hlt)
        · omega
  | some picked =>
      rw [pick_eq_some_iff] at hpick
      simp only [endAt_zipIdx, List.getElem?_zipIdx] at hpick
      obtain ⟨stop, hget, hbehind, hbefore⟩ := hpick
      obtain ⟨b, hb, rfl⟩ := Option.map_eq_some_iff.mp hget
      have hstop : stop < bs.length := (List.getElem?_eq_some_iff.mp hb).1
      show 0 + stop = place ↔ _
      rw [Nat.zero_add]
      constructor
      · rintro rfl
        exact .inl ⟨hstop, hbehind, hbefore⟩
      · rintro (⟨-, hbehind', hbefore'⟩ | ⟨-, hnone⟩)
        · -- Neither of two first stretches comes before the other.
          rcases Nat.lt_trichotomy stop place with hlt | heq | hgt
          · exact absurd hbehind (hbefore' stop hlt)
          · exact heq
          · exact absurd hbehind' (hbefore place hgt)
        · exact absurd hbehind (hnone stop hstop)

/-- What the walk comes to stands at the place where it stops. -/
theorem getElem?_placeOf {last : β} (hlast : bs.getLast? = some last) :
    bs[placeOf length start bs point]? = some ((pick length point start bs).getD last) := by
  have hne : bs ≠ [] := by
    rintro rfl
    cases hlast
  cases hpick : pick length point start bs with
  | none =>
      have hplace : placeOf length start bs point = bs.length - 1 := by
        have hlength := List.length_pos_of_ne_nil hne
        exact (placeOf_eq_iff hne).mpr (.inr ⟨by omega, pick_eq_none_iff.mp hpick⟩)
      rw [hplace, ← List.getLast?_eq_getElem?, hlast, Option.getD_none]
  | some b =>
      obtain ⟨place, hget, hbehind, hbefore⟩ := pick_eq_some_iff.mp hpick
      have hlt : place < bs.length := (List.getElem?_eq_some_iff.mp hget).1
      rw [(placeOf_eq_iff hne).mpr (.inl ⟨hlt, hbehind, hbefore⟩), hget, Option.getD_some]

/-- The same of the place itself. -/
theorem placeOf_spec (length : β → α) (start point : α) (hne : bs ≠ []) :
    (placeOf length start bs point < bs.length ∧
        point < endAt length start bs (placeOf length start bs point) ∧
        ∀ before < placeOf length start bs point, ¬ point < endAt length start bs before) ∨
      (placeOf length start bs point + 1 = bs.length ∧
        ∀ before < bs.length, ¬ point < endAt length start bs before) :=
  (placeOf_eq_iff hne).mp rfl

theorem placeOf_lt_length (hne : bs ≠ []) : placeOf length start bs point < bs.length := by
  rcases placeOf_spec length start point hne with ⟨hlt, -⟩ | ⟨hlast, -⟩
  · exact hlt
  · omega

/-- If no stretch that ended behind the point ends before it now, the walk stops no later. -/
theorem placeOf_le_of_endAt {β' : Type} {length' : β' → α} {start' : α} {bs' : List β'}
    (hlength : bs'.length = bs.length)
    (h : ∀ place < bs.length, point < endAt length start bs place →
      point < endAt length' start' bs' place) :
    placeOf length' start' bs' point ≤ placeOf length start bs point := by
  rcases eq_or_ne bs [] with rfl | hne
  · rw [List.eq_nil_of_length_eq_zero hlength]
    exact Nat.le_refl 0
  · have hne' : bs' ≠ [] := by
      rintro rfl
      exact hne (List.eq_nil_of_length_eq_zero hlength.symm)
    by_contra hgt
    rw [not_le] at hgt
    have hbound : placeOf length' start' bs' point < bs'.length := placeOf_lt_length hne'
    -- Further along, the walk has passed by the place where the other one stopped.
    have hpassed : ¬ point < endAt length' start' bs' (placeOf length start bs point) := by
      rcases placeOf_spec length' start' point hne' with ⟨-, -, hbefore⟩ | ⟨-, hnone⟩
      · exact hbefore _ hgt
      · exact hnone _ (hgt.trans hbound)
    rcases placeOf_spec length start point hne with ⟨hlt, hbehind, -⟩ | ⟨hlast, -⟩
    · exact hpassed (h _ hlt hbehind)
    · omega

end Stretches

/-! ## Exact shares

Weights are parts of 100000, so a share is its weight divided by that. -/

section Exact

variable {β : Type} {weight : β → ℚ} {entries : List β} {bucket : ℚ}

/-- Where the first `count` shares end, if their weights are exact numbers. -/
def shareEnd (weight : β → ℚ) (entries : List β) (count : Nat) : ℚ :=
  ((entries.take count).map weight).sum / 100000

@[simp] theorem shareEnd_zero : shareEnd weight entries 0 = 0 := by
  simp [shareEnd]

theorem shareEnd_succ {place : Nat} {e : β} (h : entries[place]? = some e) :
    shareEnd weight entries (place + 1) = shareEnd weight entries place + weight e / 100000 := by
  unfold shareEnd
  rw [List.take_add_one, h, Option.toList_some, List.map_append, List.sum_append, add_div]
  simp

theorem shareEnd_mono (hweight : ∀ e ∈ entries, 0 ≤ weight e) :
    Monotone (shareEnd weight entries) := by
  refine monotone_nat_of_le_succ fun count => ?_
  cases h : entries[count]? with
  | none =>
      have hcount : entries.length ≤ count := List.getElem?_eq_none_iff.mp h
      unfold shareEnd
      rw [List.take_of_length_le hcount, List.take_of_length_le (Nat.le_succ_of_le hcount)]
  | some e =>
      have hnonneg : 0 ≤ weight e := hweight e (List.mem_of_getElem? h)
      rw [shareEnd_succ h]
      linarith [div_nonneg hnonneg (by norm_num : (0 : ℚ) ≤ 100000)]

/-- The walk adds up shares of the whole one by one, which is the share of the sum. -/
theorem endAt_exact (place : Nat) :
    endAt (fun e => weight e / 100000) 0 entries place = shareEnd weight entries (place + 1) := by
  have hsum : ∀ (es : List β) (start : ℚ), es.foldl (fun sum e => sum + weight e / 100000) start
      = start + (es.map weight).sum / 100000 := by
    intro es
    induction es with
    | nil => simp
    | cons e es ih =>
        intro start
        rw [List.foldl_cons, ih, List.map_cons, List.sum_cons]
        ring
  unfold endAt shareEnd
  rw [hsum, zero_add]

/-- The place of the share of an exact bucket. -/
def exactPlace (weight : β → ℚ) (entries : List β) (bucket : ℚ) : Nat :=
  placeOf (fun e => weight e / 100000) 0 entries bucket

/-- Each share takes the buckets from the end of the one before it up to its own, and the last share
also takes all that lie beyond. -/
theorem exactPlace_eq_iff (hne : entries ≠ []) (hweight : ∀ e ∈ entries, 0 ≤ weight e)
    (hbucket : 0 ≤ bucket) {place : Nat} (hplace : place < entries.length) :
    exactPlace weight entries bucket = place ↔
      (shareEnd weight entries place ≤ bucket ∧ bucket < shareEnd weight entries (place + 1)) ∨
      (place + 1 = entries.length ∧ shareEnd weight entries entries.length ≤ bucket) := by
  have hmono := shareEnd_mono hweight
  unfold exactPlace
  rw [placeOf_eq_iff hne]
  simp only [endAt_exact, not_lt]
  constructor
  · rintro (⟨-, hbehind, hbefore⟩ | ⟨hlast, hnone⟩)
    · refine .inl ⟨?_, hbehind⟩
      cases place with
      | zero => simpa using hbucket
      | succ place => exact hbefore place (Nat.lt_succ_self place)
    · exact .inr ⟨hlast, hlast ▸ hnone place hplace⟩
  · rintro (⟨hstart, hbehind⟩ | ⟨hlast, hbeyond⟩)
    · refine .inl ⟨hplace, hbehind, fun before hlt => ?_⟩
      exact (hmono (Nat.succ_le_of_lt hlt)).trans hstart
    · refine .inr ⟨hlast, fun before hlt => ?_⟩
      exact (hmono (Nat.succ_le_of_lt hlt)).trans hbeyond

/-- A share of no weight takes no bucket, but what lies beyond all of them if it is the last. -/
theorem exactPlace_of_weight_eq_zero (hne : entries ≠ []) (hweight : ∀ e ∈ entries, 0 ≤ weight e)
    (hbucket : 0 ≤ bucket) {e : β}
    (hget : entries[exactPlace weight entries bucket]? = some e) (hzero : weight e = 0) :
    exactPlace weight entries bucket + 1 = entries.length ∧
      shareEnd weight entries entries.length ≤ bucket := by
  have hlt : exactPlace weight entries bucket < entries.length :=
    (List.getElem?_eq_some_iff.mp hget).1
  rcases (exactPlace_eq_iff hne hweight hbucket hlt).mp rfl with ⟨hstart, hbehind⟩ | hlast
  · -- The share would end where it starts, before and behind the bucket.
    rw [shareEnd_succ hget, hzero, zero_div, add_zero] at hbehind
    exact absurd hstart (not_le.mpr hbehind)
  · exact hlast

/-- Shares whose ends all move up take no bucket later than before. -/
theorem exactPlace_le_of_shareEnd_le {β' : Type} {weight' : β' → ℚ} {entries' : List β'}
    (hlength : entries'.length = entries.length)
    (hends : ∀ count ≤ entries.length,
      shareEnd weight entries count ≤ shareEnd weight' entries' count) :
    exactPlace weight' entries' bucket ≤ exactPlace weight entries bucket := by
  refine placeOf_le_of_endAt hlength fun place hlt hbehind => ?_
  rw [endAt_exact] at hbehind ⊢
  exact hbehind.trans_le (hends (place + 1) hlt)

/-- Growing the first share moves up the ends of all of them. -/
theorem shareEnd_cons_le {first first' : β} (hfirst : weight first ≤ weight first')
    (others : List β) (count : Nat) :
    shareEnd weight (first :: others) count ≤ shareEnd weight (first' :: others) count := by
  cases count with
  | zero => simp
  | succ count =>
      simp only [shareEnd, List.take_succ_cons, List.map_cons, List.sum_cons]
      gcongr

end Exact

/-! ## Rollouts

The rollout walks along its shares with floating-point ends, and this walk has a place as well. -/

/-- **A rollout partitions the buckets and ramps monotonically.** The share that a rollout serves
stands where the walk along its shares stops. Over exact numbers, that is the share whose stretch
holds the bucket, or the last one if the bucket lies beyond all of them, and there is no other. A
share of no weight is the last one then. If the ends of all shares move up, no bucket falls to a
later place, so whoever is in the first share stays there when it grows. -/
theorem Serving.variationFor_partition :
    (∀ (r : Rollout) (c : Context) (flagKey salt : String), r.shares ≠ [] →
      r.bucketReference.isValid = true →
        let found := Bucket.ofContext c flagKey r.bucketReference salt r.seed r.contextKind
        let place := placeOf (fun s : Share => s.weight / weightScale) 0 r.shares found.1
        ∃ share, r.shares[place]? = some share ∧
          (Serving.spread r).variationFor c flagKey salt =
            .ok (share.variation, r.kind == .experiment && found.2 && !share.untracked)) ∧
    (∀ (β : Type) (weight : β → ℚ) (entries : List β) (bucket : ℚ), entries ≠ [] →
      (∀ e ∈ entries, 0 ≤ weight e) → 0 ≤ bucket →
        let place := exactPlace weight entries bucket
        place < entries.length ∧
        (∀ last, entries.getLast? = some last →
          entries[place]? = some ((pick (fun e => weight e / 100000) bucket 0 entries).getD last)) ∧
        (∀ i < entries.length, place = i ↔
          (shareEnd weight entries i ≤ bucket ∧ bucket < shareEnd weight entries (i + 1)) ∨
          (i + 1 = entries.length ∧ shareEnd weight entries entries.length ≤ bucket)) ∧
        ∀ e, entries[place]? = some e → weight e = 0 →
          place + 1 = entries.length ∧ shareEnd weight entries entries.length ≤ bucket) ∧
    (∀ (β : Type) (weight weight' : β → ℚ) (entries entries' : List β) (bucket : ℚ),
      entries'.length = entries.length →
      (∀ count ≤ entries.length,
        shareEnd weight entries count ≤ shareEnd weight' entries' count) →
        exactPlace weight' entries' bucket ≤ exactPlace weight entries bucket) ∧
    ∀ (β : Type) (weight : β → ℚ) (first first' : β) (others : List β) (bucket : ℚ),
      weight first ≤ weight first' → exactPlace weight (first :: others) bucket = 0 →
        exactPlace weight (first' :: others) bucket = 0 := by
  refine ⟨?_, ?_, ?_, ?_⟩
  · intro r c flagKey salt hne hreference found place
    obtain ⟨last, hlast⟩ : ∃ last, r.shares.getLast? = some last :=
      ⟨_, List.getLast?_eq_some_getLast hne⟩
    refine ⟨r.shareAt last found.1, getElem?_placeOf hlast, ?_⟩
    unfold variationFor spread
    dsimp only
    rw [hlast]
    exact if_pos hreference
  · intro β weight entries bucket hne hweight hbucket place
    refine ⟨placeOf_lt_length hne, fun last hlast => getElem?_placeOf hlast, fun i hi => ?_,
      fun e hget hzero => ?_⟩
    · exact exactPlace_eq_iff hne hweight hbucket hi
    · exact exactPlace_of_weight_eq_zero hne hweight hbucket hget hzero
  · intro β weight weight' entries entries' bucket hlength hends
    exact exactPlace_le_of_shareEnd_le hlength hends
  · intro β weight first first' others bucket hfirst hplace
    have hle : exactPlace weight (first' :: others) bucket
        ≤ exactPlace weight (first :: others) bucket :=
      exactPlace_le_of_shareEnd_le rfl fun count _ => shareEnd_cons_le hfirst others count
    exact Nat.eq_zero_of_le_zero (hplace ▸ hle)

/-- A share of no weight is passed by where it would stand, and nobody in the first share is lost
when it grows. -/
theorem Serving.variationFor_partition_zeroWeight :
    let weights : List ℚ := [20000, 0, 30000]
    let grown : List ℚ := [25000, 0, 25000]
    let r : Rollout := ⟨.experiment, none, none, none, [⟨1, 100000, false⟩]⟩
    let c : Context := ⟨[("key", .string "u")], true⟩
    let found := Bucket.ofContext c "flag" r.bucketReference "salt" r.seed r.contextKind
    let place := placeOf (fun s : Share => s.weight / weightScale) 0 r.shares found.1
    (∃ share, r.shares[place]? = some share ∧
      (Serving.spread r).variationFor c "flag" "salt" =
        .ok (share.variation, r.kind == .experiment && found.2 && !share.untracked)) ∧
      exactPlace id weights (1 / 5) = 2 ∧ exactPlace id weights (3 / 4) = 2 ∧
      exactPlace id grown (1 / 5) ≤ exactPlace id weights (1 / 5) ∧
      exactPlace id weights (1 / 10) = 0 ∧ exactPlace id (25000 :: [0, 30000]) (1 / 10) = 0 := by
  intro weights grown r c found place
  obtain ⟨hserved, hpartition, hramp, hgrow⟩ := Serving.variationFor_partition
  have hweight : ∀ e ∈ weights, (0 : ℚ) ≤ id e := by simp [weights]
  have hplace (bucket : ℚ) (hbucket : 0 ≤ bucket) :=
    (hpartition ℚ id weights bucket (by simp [weights]) hweight hbucket).2.2.1
  have hfirst : exactPlace id weights (1 / 10) = 0 := by
    rw [hplace (1 / 10) (by norm_num) 0 (by decide)]
    norm_num [shareEnd, weights]
  refine ⟨hserved r c "flag" "salt" (by simp [r]) (by decide), ?_, ?_, ?_, hfirst, ?_⟩
  · rw [hplace (1 / 5) (by norm_num) 2 (by decide)]
    norm_num [shareEnd, weights]
  · rw [hplace (3 / 4) (by norm_num) 2 (by decide)]
    norm_num [shareEnd, weights]
  · refine hramp ℚ id id weights grown (1 / 5) rfl fun count hcount => ?_
    have hle : count ≤ 3 := hcount
    interval_cases count <;> norm_num [shareEnd, weights, grown]
  · exact hgrow ℚ id 20000 25000 [0, 30000] (1 / 10) (by norm_num) hfirst

end FeatureFlags
