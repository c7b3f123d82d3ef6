import FeatureFlags.Proofs.Attribute.Exclusion

/-! # What is left out is not told

Two values may be the same except for what stands under some names (`Json.SameExceptAt`). Once a
path ends there, or above, they have the same copy, and the same references take something away from
them (`Exclusion.copy_eq`, `Exclusion.excluded_eq`). So neither the copy nor the list of references
tells what has been left out.

Other paths may lead on below the place where one ends, and some of them may lead to something in
one value but not in the other. They are not followed: a member at which a path ends is left out as
a whole, and only the references of the paths that end there are listed. -/

namespace FeatureFlags

/-- The values are the same except for what stands under the names, where each has something. The
member that is gone into is the first one of its name, which is the one that reading finds. -/
inductive Json.SameExceptAt : List String → Json → Json → Prop where
  | here (v w : Json) : SameExceptAt [] v w
  | inside {name : String} {names : List String} {v w : Json} {before after : Entries Json}
      (hfirst : name ∉ before.names) (h : SameExceptAt names v w) :
      SameExceptAt (name :: names) (.object (before ++ (name, v) :: after))
        (.object (before ++ (name, w) :: after))

namespace Json

variable {v w : Json} {name other : String} {names : List String}

theorem SameExceptAt.member? (h : SameExceptAt (name :: names) v w) :
    ∃ x y, v.member? name = some x ∧ w.member? name = some y ∧ SameExceptAt names x y := by
  cases h with
  | @inside _ _ x y before after hfirst h =>
      have hnone : Entries.find? name before = none := Entries.find?_eq_none_iff.mpr hfirst
      refine ⟨x, y, ?_, ?_, h⟩
      all_goals
        show Entries.find? name (before ++ _ :: after) = _
        rw [Entries.find?_append, hnone, Entries.find?_cons, if_pos rfl]
        rfl

theorem SameExceptAt.member?_of_ne (h : SameExceptAt (name :: names) v w) (hne : other ≠ name) :
    v.member? other = w.member? other := by
  cases h with
  | @inside _ _ x y before after hfirst h =>
      show Entries.find? other (before ++ (name, x) :: after)
        = Entries.find? other (before ++ (name, y) :: after)
      rw [Entries.find?_append, Entries.find?_append, Entries.find?_cons, Entries.find?_cons,
        if_neg hne.symm, if_neg hne.symm]

theorem SameExceptAt.names_eq {members members' : Entries Json}
    (h : SameExceptAt (name :: names) (.object members) (.object members')) :
    members.names = members'.names := by
  cases h with
  | inside => simp [Entries.names]

end Json

namespace Exclusion

variable {paths : List Pending} {names : List String} {v w : Json} {members members' : Entries Json}

/-! ## Members one after the other

Both functions on members go through them in order, so they split where the members do: in front of
the member that differs, at it, and behind it. -/

theorem pruneMembers_append :
    pruneMembers paths (members ++ members')
      = pruneMembers paths members ++ pruneMembers paths members' := by
  simp only [pruneMembers_eq, List.filter_append, List.map_append]

theorem hitsMembers_append :
    hitsMembers paths (members ++ members')
      = hitsMembers paths members ++ hitsMembers paths members' := by
  simp only [hitsMembers_eq, List.flatMap_append]

/-! ## Nothing is told -/

/-- What stands where a path ends, or below, shows neither in the copy nor in the references that
take something away. -/
theorem prune_eq_and_hits_eq (h : v.SameExceptAt names w) (hr : Removes paths names) :
    prune paths v = prune paths w ∧ hits paths v = hits paths w := by
  induction h generalizing paths with
  | here v w => exact absurd hr not_removes_nil
  | @inside name names v w before after hfirst h ih =>
      rw [prune, prune, hits, hits, pruneMembers_append, pruneMembers_append, hitsMembers_append,
        hitsMembers_append, pruneMembers, pruneMembers, hitsMembers, hitsMembers]
      cases hends : (endingAt name paths).isEmpty with
      -- The member is left out as a whole, and no path that leads on below it is followed.
      | false => exact ⟨rfl, rfl⟩
      | true =>
          have hbelow : Removes (below name paths) names :=
            (removes_cons.mp hr).resolve_left (hends ▸ Bool.noConfusion)
          obtain ⟨hprune, hhits⟩ := ih hbelow
          rw [hprune, hhits]
          exact ⟨rfl, rfl⟩

theorem copy_eq {refs : List Reference} (h : v.SameExceptAt names w)
    (hr : Removes (pathsOf refs) names) : copy v refs = copy w refs :=
  (prune_eq_and_hits_eq h hr).1

theorem excluded_eq {refs : List Reference} (h : v.SameExceptAt names w)
    (hr : Removes (pathsOf refs) names) : excluded v refs = excluded w refs :=
  congrArg (fun hit => sortedTexts (List.map Reference.text hit)) (prune_eq_and_hits_eq h hr).2

end Exclusion
end FeatureFlags
