import FeatureFlags.Attribute.Reference

/-! # References to the same attribute

What a reference reads depends on its names only (`get?_congr`), so references of the same names
read the same in every value.

References of different names are told apart by a value made for the names of one of them: `nest`
puts one leaf under these names, and nothing else. They lead to the leaf, and no other names do
(`descend_nest_iff`): fewer of them lead to an object, and more lead out of the leaf. So references
that read the same have the same names (`components_eq_of_get?_eq`), provided one of them has names
at all. A reference without names reads nothing, whatever its text is. -/

namespace FeatureFlags
namespace Reference

variable {r s : Reference} {leaf : Json} {names others : List String}

def nest (leaf : Json) : List String → Json
  | [] => leaf
  | name :: names => .object [(name, nest leaf names)]

theorem distinct_nest (h : leaf.Distinct) : (names : List String) → (nest leaf names).Distinct
  | [] => h
  | name :: names =>
      .object (List.pairwise_singleton _ name)
        (List.forall_mem_singleton.mpr (distinct_nest h names))

theorem descend_nest_cons (name other : String) (names others : List String) :
    descend (nest leaf (name :: names)) (other :: others)
      = if name = other then descend (nest leaf names) others else none := by
  rw [descend, nest, Json.member?, Entries.find?_cons]
  split <;> rfl

/-- The names that a value is made for lead to its leaf, and no other names do. -/
theorem descend_nest_iff (hleaf : leaf.members? = none) :
    descend (nest leaf names) others = some leaf ↔ others = names := by
  induction names generalizing others with
  | nil =>
      cases others with
      | nil => exact iff_of_true rfl rfl
      | cons other others =>
          have hnone : descend leaf (other :: others) = none := by
            cases leaf with
            | object => cases hleaf
            | null | bool | number | string | array => rfl
          rw [nest, hnone]
          exact iff_of_false nofun nofun
  | cons name names ih =>
      cases others with
      -- The names end too early, at an object that still has the leaf below it.
      | nil =>
          refine iff_of_false (fun h => ?_) nofun
          have hobject : nest leaf (name :: names) = leaf := Option.some.inj h
          rw [← hobject] at hleaf
          cases hleaf
      | cons other others =>
          rw [descend_nest_cons, List.cons.injEq, ← ih]
          split
          · next heq => exact (and_iff_right heq.symm).symm
          · next hne => exact iff_of_false nofun fun h => hne h.1.symm

/-- What a reference reads depends on its names only. -/
theorem get?_congr (h : r.components = s.components) (v : Json) : r.get? v = s.get? v := by
  rw [get?, get?, h]

theorem get?_nest_iff (hleaf : leaf.members? = none) (hne : names ≠ []) :
    r.get? (nest leaf names) = some leaf ↔ r.components = names := by
  by_cases hr : r.components = []
  · have hnone : r.get? (nest leaf names) = none := by rw [get?, hr]
    rw [hnone, hr]
    exact iff_of_false nofun hne.symm
  · rw [get?_of_ne_nil hr, descend_nest_iff hleaf]

/-- References that read the same have the same names, if one of them has names at all: otherwise
the value made for these names would be read by that reference alone. -/
theorem components_eq_of_get?_eq (hne : r.components ≠ [])
    (h : ∀ v : Json, v.Distinct → r.get? v = s.get? v) : r.components = s.components := by
  let leaf := Json.bool true
  have hread : r.get? (nest leaf r.components) = some leaf := (get?_nest_iff rfl hne).mpr rfl
  rw [h _ (distinct_nest (.bool true) _), get?_nest_iff rfl hne] at hread
  exact hread.symm

/-- **References to the same attribute.** Two references, valid or not, compare as the same exactly
if they read the same in every value. -/
theorem same_iff_get_eq (r s : Reference) :
    r.same s = true ↔ ∀ v : Json, v.Distinct → r.get? v = s.get? v := by
  rw [same, beq_iff_eq]
  constructor
  · exact fun h v _ => get?_congr h v
  · intro h
    -- The names of either reference tell the two apart, and without any both read nothing.
    by_cases hr : r.components = []
    · by_cases hs : s.components = []
      · rw [hr, hs]
      · exact (components_eq_of_get?_eq hs fun v hv => (h v hv).symm).symm
    · exact components_eq_of_get?_eq hr h

example : (Reference.mk "/a~1b").same ⟨"a/b"⟩ = true ∧ (Reference.mk "//").same ⟨"/"⟩ = false := by
  decide +kernel

end Reference
end FeatureFlags
