import FeatureFlags.Proofs.Attribute.Removal

/-! # Leaving out one list after another

Leaving out one list of references and then another one leaves out both together (`copy_append`),
also where references of one list lead above or below those of the other. What is left depends only
on the names that are addressed (`copy_congr`), so that neither the order of references nor their
repetition counts.

Both are proved for paths under way first, since these change from level to level: below a member,
only the paths that go on there are left. The order of references shows in no copy, but it does show
in the references that are hit; of these only so much is said that nothing is hit for a second time
(`hits_prune`). -/

namespace FeatureFlags
namespace Exclusion

variable {paths others : List Pending} {refs refs' : List Reference} {name : String}
  {names : List String} {v : Json}

/-! ## Two lists of paths

All three statements go by induction over the members of the value, for all lists of paths at
once. -/

theorem endingAt_append :
    endingAt name (paths ++ others) = endingAt name paths ++ endingAt name others := by
  simp [endingAt]

theorem below_append : below name (paths ++ others) = below name paths ++ below name others := by
  simp [below]

/-- One copy after another leaves out what both leave out. -/
theorem prune_append (v : Json) : prune (paths ++ others) v = prune others (prune paths v) := by
  induction v using Json.members_induction generalizing paths others with
  | other v hnone => simp only [prune_of_members?_eq_none hnone]
  | object members ih =>
      -- A member is left by both together if each of them leaves it, whichever is looked at first.
      have hkept : ∀ m : String × Json, (endingAt m.1 (paths ++ others)).isEmpty
          = ((endingAt m.1 others).isEmpty && (endingAt m.1 paths).isEmpty) := by
        intro m
        rw [endingAt_append, Bool.and_comm]
        cases endingAt m.1 paths <;> rfl
      simp only [prune, pruneMembers_eq, List.filter_map, List.map_map, List.filter_filter, hkept]
      congr 1
      refine List.map_congr_left fun m hm => ?_
      have hmem : m ∈ members := (List.mem_filter.mp hm).1
      show (m.1, _) = (m.1, _)
      rw [below_append, ih m hmem]

/-- What is left depends only on where something is left out. -/
theorem prune_congr (h : ∀ names, Removes paths names ↔ Removes others names) (v : Json) :
    prune paths v = prune others v := by
  induction v using Json.members_induction generalizing paths others with
  | other v hnone => simp only [prune_of_members?_eq_none hnone]
  | object members ih =>
      have hends : ∀ name, (endingAt name paths).isEmpty = (endingAt name others).isEmpty := by
        intro name
        rw [Bool.eq_iff_iff, isEmpty_endingAt_iff, isEmpty_endingAt_iff, h]
      simp only [prune, pruneMembers_eq, hends]
      congr 1
      refine List.map_congr_left fun m hm => ?_
      obtain ⟨hmem, hkept⟩ := List.mem_filter.mp hm
      show (m.1, _) = (m.1, _)
      rw [ih m hmem]
      -- Neither list removes the member itself, so what they remove below it is the same.
      intro names
      have hcons := h (m.1 :: names)
      rwa [removes_cons, removes_cons, hends, hkept, or_iff_right Bool.noConfusion,
        or_iff_right Bool.noConfusion] at hcons

/-- Where nothing is left that a path leads to, no reference takes anything away. -/
theorem hits_prune (h : ∀ names, Removes others names → Removes paths names) (v : Json) :
    hits others (prune paths v) = [] := by
  induction v using Json.members_induction generalizing paths others with
  | other v hnone => rw [prune_of_members?_eq_none hnone, hits_of_members?_eq_none hnone]
  | object members ih =>
      rw [prune, hits, hitsMembers_eq, pruneMembers_eq, List.flatMap_eq_nil_iff]
      intro left hleft
      obtain ⟨m, hm, rfl⟩ := List.mem_map.mp hleft
      obtain ⟨hmem, hkept⟩ := List.mem_filter.mp hm
      have hkept' : (endingAt m.1 others).isEmpty = true :=
        isEmpty_endingAt_iff.mpr (mt (h [m.1]) (isEmpty_endingAt_iff.mp hkept))
      dsimp only
      rw [if_pos hkept', ih m hmem]
      intro names hremoves
      have hcons := h (m.1 :: names) (removes_cons.mpr (.inr hremoves))
      exact (removes_cons.mp hcons).resolve_left (hkept ▸ Bool.noConfusion)

/-! ## Two lists of references

A list of references stands for the paths of its valid references, one for each of them. -/

theorem pathsOf_append : pathsOf (refs ++ refs') = pathsOf refs ++ pathsOf refs' := by
  simp [pathsOf]

theorem copy_append (v : Json) : copy v (refs ++ refs') = copy (copy v refs) refs' := by
  rw [copy, pathsOf_append, prune_append]
  rfl

/-- References that lead to the same names leave out the same. -/
theorem copy_congr (h : ∀ names, names ∈ addressed refs ↔ names ∈ addressed refs') (v : Json) :
    copy v refs = copy v refs' := by
  refine prune_congr (fun names => ?_) v
  rw [removes_iff_addressed, removes_iff_addressed]
  exact exists_congr fun path => and_congr_left fun _ => h path

theorem mem_addressed_congr (h : ∀ r, r ∈ refs ↔ r ∈ refs') :
    names ∈ addressed refs ↔ names ∈ addressed refs' := by
  rw [mem_addressed, mem_addressed]
  exact exists_congr fun r => and_congr_left fun _ => h r

/-- **Leaving out composes.** To leave out two lists of references together is to leave out one and
then the other from what is left. So neither the order of the references nor their repetition
counts, and to leave out a list for a second time takes nothing away and reports nothing. -/
theorem copy_composes (v : Json) (refs refs' : List Reference) :
    copy v (refs ++ refs') = copy (copy v refs) refs' ∧
      ((∀ r, r ∈ refs ↔ r ∈ refs') → copy v refs = copy v refs') ∧
      copy (copy v refs) refs = copy v refs ∧ excluded (copy v refs) refs = [] := by
  refine ⟨copy_append v, fun h => copy_congr (fun names => mem_addressed_congr h) v, ?_, ?_⟩
  · calc copy (copy v refs) refs
        = copy v (refs ++ refs) := (copy_append v).symm
      _ = copy v refs := copy_congr (fun names => mem_addressed_congr (by simp)) v
  · rw [excluded_eq_nil_iff]
    exact hits_prune (fun names => id) v

/-- Two lists of which each leads above and below the other one: which comes first does not
count. -/
theorem copy_composes_crossed :
    let v : Json := .object [("a", .object [("b", .object [("c", .null), ("d", .null)])]),
      ("e", .object [("f", .null), ("g", .bool true)])]
    let refs : List Reference := [⟨"/a/b/c"⟩, ⟨"e"⟩]
    let refs' : List Reference := [⟨"/e/f"⟩, ⟨"/a/b"⟩, ⟨"/e/f"⟩]
    copy (copy v refs) refs' = copy (copy v refs') refs ∧
      (Reference.descend (copy (copy v refs) refs') ["a"]).isSome = true ∧
      (Reference.descend (copy (copy v refs) refs') ["a", "b"]).isSome = false ∧
      excluded (copy v (refs ++ refs')) (refs ++ refs') = [] := by
  intro v refs refs'
  obtain ⟨-, hswap, -, hnothing⟩ := copy_composes v (refs ++ refs') (refs' ++ refs)
  refine ⟨?_, by decide +kernel, by decide +kernel, hnothing⟩
  calc copy (copy v refs) refs'
      = copy v (refs ++ refs') := (copy_composes v refs refs').1.symm
    _ = copy v (refs' ++ refs) := hswap fun r => by rw [List.mem_append, List.mem_append, or_comm]
    _ = copy (copy v refs') refs := (copy_composes v refs' refs).1

end Exclusion
end FeatureFlags
