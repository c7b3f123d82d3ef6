import FeatureFlags.Attribute.Exclusion

/-! # What is left after leaving out

The copy is described by what is read from it.

* **One level down** (`member?_prune`) — a member is left unless a path ends at it, and what stands
  below it is left out in turn, by the paths that begin with its name.
* **Further down** (`descend_prune_of_removes`, `descend_prune`) — names lead nowhere in the copy if
  a path ends on the way, and otherwise where they have led before.
* **Nothing to leave out** (`prune_eq_self`) — if no path leads to anything, the copy is the value.

`Removes` says in one word that a path ends at some names or above. It follows the descent: a path
that ends on the way down ends at the first name or below it (`removes_cons`). -/

namespace FeatureFlags

namespace Exclusion

/-! ## Paths one level down

`endingAt` and `below` take the paths apart by their first name: those with no other name end here,
the others go on below. `belowAll` follows the ones that go on through several names. -/

/-- One of the paths ends at these names, or at some above them. -/
def Removes (paths : List Pending) (names : List String) : Prop :=
  ∃ p ∈ paths, p.names ≠ [] ∧ p.names <+: names

def belowAll (names : List String) (paths : List Pending) : List Pending :=
  names.foldl (fun paths name => below name paths) paths

variable {paths : List Pending} {name : String} {names : List String}

theorem endingAt_nonempty_iff :
    (endingAt name paths).isEmpty = false ↔ ∃ p ∈ paths, p.names = [name] := by
  unfold endingAt
  rw [List.isEmpty_eq_false_iff_exists_mem]
  constructor
  · rintro ⟨_, h⟩
    obtain ⟨p, hp, rfl⟩ := List.mem_map.mp h
    obtain ⟨hmem, hnames⟩ := List.mem_filter.mp hp
    exact ⟨p, hmem, eq_of_beq hnames⟩
  · rintro ⟨p, hmem, hnames⟩
    refine ⟨p.reference, List.mem_map_of_mem (List.mem_filter.mpr ⟨hmem, ?_⟩)⟩
    rw [hnames]
    exact beq_self_eq_true [name]

theorem mem_below {q : Pending} :
    q ∈ below name paths ↔ q.names ≠ [] ∧ ⟨q.reference, name :: q.names⟩ ∈ paths := by
  unfold below
  rw [List.mem_filterMap]
  constructor
  · rintro ⟨⟨reference, pathNames⟩, hp, hq⟩
    rcases pathNames with _ | ⟨first, _ | ⟨second, rest⟩⟩
    · cases hq
    · cases hq
    · dsimp only at hq
      split at hq
      · next hfirst =>
        cases hq
        subst hfirst
        exact ⟨List.cons_ne_nil second rest, hp⟩
      · cases hq
  · rintro ⟨hne, hp⟩
    refine ⟨_, hp, ?_⟩
    obtain ⟨reference, pathNames⟩ := q
    cases pathNames with
    | nil => exact absurd rfl hne
    | cons first rest => exact if_pos rfl

theorem not_removes_nil : ¬ Removes paths [] := by
  rintro ⟨p, -, hne, hbegins⟩
  exact hne (List.prefix_nil.mp hbegins)

/-- A path ends on the way down if it ends at the first name, or else below it. -/
theorem removes_cons :
    Removes paths (name :: names)
      ↔ (endingAt name paths).isEmpty = false ∨ Removes (below name paths) names := by
  constructor
  · rintro ⟨p, hp, hne, hbegins⟩
    obtain ⟨reference, pathNames⟩ := p
    cases pathNames with
    | nil => exact absurd rfl hne
    | cons first rest =>
        obtain ⟨rfl, hrest⟩ := List.cons_prefix_cons.mp hbegins
        cases rest with
        | nil =>
            left
            exact endingAt_nonempty_iff.mpr ⟨_, hp, rfl⟩
        | cons second rest =>
            right
            exact ⟨⟨reference, second :: rest⟩, mem_below.mpr ⟨List.cons_ne_nil _ _, hp⟩,
              List.cons_ne_nil _ _, hrest⟩
  · rintro (hends | ⟨q, hq, hne, hbegins⟩)
    · obtain ⟨p, hp, hnames⟩ := endingAt_nonempty_iff.mp hends
      refine ⟨p, hp, hnames ▸ List.cons_ne_nil _ _, ?_⟩
      rw [hnames]
      exact List.cons_prefix_cons.mpr ⟨rfl, List.nil_prefix⟩
    · obtain ⟨-, hp⟩ := mem_below.mp hq
      exact ⟨_, hp, List.cons_ne_nil _ _, List.cons_prefix_cons.mpr ⟨rfl, hbegins⟩⟩

/-- A path ends at these names, or above, or on the way from there. -/
theorem removes_append {rest : List String} :
    Removes paths (names ++ rest)
      ↔ Removes paths names ∨ Removes (belowAll names paths) rest := by
  induction names generalizing paths with
  | nil =>
      rw [List.nil_append]
      exact (or_iff_right not_removes_nil).symm
  | cons name names ih =>
      rw [List.cons_append, removes_cons, removes_cons, ih, or_assoc]
      rfl

theorem isEmpty_endingAt_iff : (endingAt name paths).isEmpty = true ↔ ¬ Removes paths [name] := by
  rw [removes_cons, or_iff_left not_removes_nil, Bool.not_eq_false]

/-! ## Members as lists

The two functions on members recurse along them, together with the functions on values. As lists
they are a filter with a map and a concatenation, for which there are lemmas. -/

/-- The members that are left, one by one. -/
theorem pruneMembers_eq (members : Entries Json) :
    pruneMembers paths members
      = (members.filter fun m => (endingAt m.1 paths).isEmpty).map
          fun m => (m.1, prune (below m.1 paths) m.2) := by
  induction members with
  | nil => rw [pruneMembers, List.filter_nil, List.map_nil]
  | cons member rest ih =>
      rw [pruneMembers, ih, List.filter_cons]
      split <;> rfl

/-- The references that take something away, member by member. -/
theorem hitsMembers_eq (members : Entries Json) :
    hitsMembers paths members
      = members.flatMap fun m =>
          if (endingAt m.1 paths).isEmpty then hits (below m.1 paths) m.2
          else endingAt m.1 paths := by
  induction members with
  | nil => rw [hitsMembers, List.flatMap_nil]
  | cons member rest ih => rw [hitsMembers, ih, List.flatMap_cons]

/-- A value without members is copied as it stands. -/
theorem prune_of_members?_eq_none {v : Json} (h : v.members? = none) : prune paths v = v := by
  cases v with
  | object members => cases h
  | null | bool | number | string | array =>
      rw [prune]
      rintro _ ⟨⟩

theorem hits_of_members?_eq_none {v : Json} (h : v.members? = none) : hits paths v = [] := by
  cases v with
  | object members => cases h
  | null | bool | number | string | array =>
      rw [hits]
      rintro _ ⟨⟩

/-! ## Reading from the copy

Reading finds the first member of a name. That does no harm where a name stands twice, since whether
a member is left out depends on its name alone. -/

theorem find?_pruneMembers (members : Entries Json) :
    Entries.find? name (pruneMembers paths members)
      = if (endingAt name paths).isEmpty then
          (Entries.find? name members).map (prune (below name paths))
        else none := by
  induction members with
  | nil =>
      rw [pruneMembers]
      split <;> rfl
  | cons member rest ih =>
      obtain ⟨n, v⟩ := member
      rw [pruneMembers, Entries.find?_cons]
      by_cases hn : n = name
      -- A member that is left out hides no other one of its name: that one is left out too.
      · subst hn
        rw [if_pos rfl]
        cases hends : (endingAt n paths).isEmpty with
        | true => rw [if_pos rfl, Entries.find?_cons, if_pos rfl, if_pos rfl, Option.map_some]
        | false =>
            rw [hends] at ih
            rw [if_neg Bool.false_ne_true, ih]
            rfl
      · rw [if_neg hn]
        split
        · rw [Entries.find?_cons, if_neg hn, ih]
        · exact ih

/-- A member is left if no path ends at it, and what stands below it is left out in turn. -/
theorem member?_prune (v : Json) :
    (prune paths v).member? name
      = if (endingAt name paths).isEmpty then (v.member? name).map (prune (below name paths))
        else none := by
  cases v with
  | object members =>
      rw [prune]
      exact find?_pruneMembers members
  | null | bool | number | string | array =>
      rw [prune]
      · exact (ite_self none).symm
      · rintro _ ⟨⟩

/-- Names lead nowhere if a path ends on the way. -/
theorem descend_prune_of_removes {v : Json} (h : Removes paths names) :
    Reference.descend (prune paths v) names = none := by
  induction names generalizing paths v with
  | nil => exact absurd h not_removes_nil
  | cons name names ih =>
      rw [Reference.descend, member?_prune]
      rcases removes_cons.mp h with hends | hbelow
      · rw [hends]
        rfl
      -- The first name may be left out as well; else the rest is read from a pruned member.
      · split
        · cases v.member? name with
          | none => rfl
          | some w => exact ih hbelow
        · rfl

theorem descend_prune {v : Json} (h : ¬ Removes paths names) :
    Reference.descend (prune paths v) names
      = (Reference.descend v names).map (prune (belowAll names paths)) := by
  induction names generalizing paths v with
  | nil => rfl
  | cons name names ih =>
      -- No path ends at the first name, so the member is there, and none ends below it on the way.
      obtain ⟨hends, hbelow⟩ := not_or.mp fun hor => h (removes_cons.mpr hor)
      rw [Reference.descend, Reference.descend, member?_prune, if_pos (Bool.not_eq_false _ ▸ hends)]
      cases v.member? name with
      | none => rfl
      | some w => exact ih hbelow

/-- Leaving out adds nothing. -/
theorem descend_prune_eq_none {v : Json} (h : Reference.descend v names = none) :
    Reference.descend (prune paths v) names = none := by
  by_cases hr : Removes paths names
  · exact descend_prune_of_removes hr
  · rw [descend_prune hr, h]
    rfl

/-! ## The paths of references -/

theorem removes_pathsOf {refs : List Reference} :
    Removes (pathsOf refs) names
      ↔ ∃ r ∈ refs, r.isValid = true ∧ r.components ≠ [] ∧ r.components <+: names := by
  unfold Removes pathsOf
  constructor
  · rintro ⟨p, hp, hne, hbegins⟩
    obtain ⟨r, hr, rfl⟩ := List.mem_map.mp hp
    obtain ⟨hmem, hvalid⟩ := List.mem_filter.mp hr
    exact ⟨r, hmem, (Bool.and_eq_true_iff.mp hvalid).1, hne, hbegins⟩
  · rintro ⟨r, hmem, hvalid, hne, hbegins⟩
    refine ⟨_, List.mem_map_of_mem (List.mem_filter.mpr ⟨hmem, ?_⟩), hne, hbegins⟩
    rw [hvalid, Bool.true_and, Bool.not_eq_true', List.isEmpty_eq_false_iff]
    exact hne

/-! ## Nothing to leave out -/

/-- Where no path ends, the copy is the value. -/
theorem prune_eq_self {v : Json} (h : hits paths v = []) : prune paths v = v := by
  induction v using Json.members_induction generalizing paths with
  | other v hnone => exact prune_of_members?_eq_none hnone
  | object members ih =>
      rw [hits, hitsMembers_eq, List.flatMap_eq_nil_iff] at h
      -- A path that ended at a member would lead to it.
      have hkept : ∀ m ∈ members, (endingAt m.1 paths).isEmpty = true := by
        intro m hm
        have hnone := h m hm
        split at hnone
        · next hends => exact hends
        · exact List.isEmpty_iff.mpr hnone
      rw [prune, pruneMembers_eq, List.filter_eq_self.mpr hkept]
      congr 1
      calc members.map _
          = members.map id := by
            refine List.map_congr_left fun m hm => ?_
            have hnone := h m hm
            rw [if_pos (hkept m hm)] at hnone
            rw [ih m hm hnone, id]
        _ = members := List.map_id members

theorem hits_nil (v : Json) : hits [] v = [] := by
  induction v using Json.members_induction with
  | other v hnone => exact hits_of_members?_eq_none hnone
  | object members ih =>
      rw [hits, hitsMembers_eq, List.flatMap_eq_nil_iff]
      exact fun m hm => ih m hm

/-- Without paths the copy is the value. -/
theorem prune_nil (v : Json) : prune [] v = v := prune_eq_self (hits_nil v)

/-- A member is the same as before if no path begins with its name. -/
theorem member?_prune_of_head? (h : ∀ p ∈ paths, p.names.head? ≠ some name) (v : Json) :
    (prune paths v).member? name = v.member? name := by
  have hends : (endingAt name paths).isEmpty = true := by
    rw [← Bool.not_eq_false, endingAt_nonempty_iff]
    rintro ⟨p, hp, hnames⟩
    exact h p hp (hnames ▸ rfl)
  have hbelow : below name paths = [] := by
    refine List.eq_nil_iff_forall_not_mem.mpr fun q hq => ?_
    exact h _ (mem_below.mp hq).2 rfl
  rw [member?_prune, if_pos hends, hbelow, show prune [] = id from funext prune_nil,
    Option.map_id_fun, id]

end Exclusion
end FeatureFlags
