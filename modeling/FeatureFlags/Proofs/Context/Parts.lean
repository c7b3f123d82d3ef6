import FeatureFlags.Proofs.Context.Redaction

/-! # Contexts of several kinds

A single context can stand as the only part of a context that holds several (`Context.asMulti`), and
such a context can take in a part of another kind (`Context.withPart`). Both are contexts again, and
the parts that were there before are still there: `Valid.part?_asMulti` and `Valid.part?_withPart`.

A legacy user is left out of both. It names no kind, and what it holds stands in two places, at the
top and among its custom attributes, so that it is no part of anything as it is. -/

namespace FeatureFlags
namespace Context

/-- The context as one that holds several. A single context becomes its only part. -/
def asMulti (c : Context) : Context :=
  if c.isMulti then c
  else ⟨[("kind", .string multiKind), ((c.ownKind?).getD defaultKind, c.toJson)], false⟩

/-- The context with one more part. A part of the same kind is replaced. -/
def withPart (c : Context) (kind : String) (part : Json) : Context :=
  ⟨Entries.insert kind part c.asMulti.members, false⟩

variable {c : Context} {members : Entries Json} {own kind : String} {part : Json}

/-! ## As the only part

The part of a kind is looked up by its name there, and by the kind it names itself in a single
context. -/

theorem asMulti_of_single (hown : Entries.find? "kind" members = some (.string own))
    (hne : own ≠ multiKind) :
    asMulti ⟨members, false⟩ = ⟨[("kind", .string multiKind), (own, .object members)], false⟩ := by
  have hsingle : isMulti ⟨members, false⟩ = false :=
    (isMulti_of_find? hown).trans (beq_eq_false_iff_ne.mpr hne)
  unfold asMulti
  rw [hsingle, ownKind?_of_find? hown]
  rfl

theorem asMulti_of_multi (hown : Entries.find? "kind" members = some (.string multiKind)) :
    asMulti ⟨members, false⟩ = ⟨members, false⟩ := by
  unfold asMulti
  rw [isMulti_of_find? hown]
  rfl

/-- A context that holds several is what a context becomes, unless it is a legacy user. -/
theorem Valid.asMulti (h : c.Valid) (hlegacy : c.legacy = false) :
    ∃ members, c.asMulti = ⟨members, false⟩ ∧
      Entries.find? "kind" members = some (.string multiKind) ∧
      ∀ name part, (name, part) ∈ members → name ≠ "kind" →
        name ≠ multiKind ∧ isValidKind name = true ∧ isValidKey (part.member? "key") = true := by
  cases h with
  | legacy => cases hlegacy
  | @single members own hown hne hvalid hkey =>
      refine ⟨_, asMulti_of_single hown hne, rfl, fun name part hmem hname => ?_⟩
      rcases List.mem_cons.mp hmem with heq | hmem
      · cases heq
        exact absurd rfl hname
      · obtain heq := List.mem_singleton.mp hmem
        cases heq
        exact ⟨hne, hvalid, hkey⟩
  | multi hown hparts => exact ⟨_, asMulti_of_multi hown, hown, hparts⟩

theorem Valid.part?_asMulti (h : c.Valid) (hlegacy : c.legacy = false) (kind : String) :
    c.asMulti.part? kind = c.part? kind := by
  cases h with
  | legacy => cases hlegacy
  | multi hown hparts => rw [asMulti_of_multi hown]
  | @single members own hown hne hvalid hkey =>
      have hkind : own ≠ "kind" := kind_ne_of_isValidKind hvalid
      rw [asMulti_of_single hown hne]
      by_cases hsame : kind = own
      · subst hsame
        rw [part?_eq_find? rfl hkind, part?_eq_toJson hown hne, Entries.find?_cons,
          if_neg hkind.symm, Entries.find?_cons, if_pos rfl]
      · rw [part?_of_single hown hne, if_neg hsame]
        by_cases hname : kind = "kind"
        · subst hname
          rfl
        · rw [part?_eq_find? rfl hname, Entries.find?_cons, if_neg fun heq => hname heq.symm,
            Entries.find?_cons, if_neg fun heq => hsame heq.symm]
          rfl

theorem Valid.mem_kinds_asMulti (h : c.Valid) (hlegacy : c.legacy = false) (kind : String) :
    kind ∈ c.asMulti.kinds ↔ kind ∈ c.kinds := by
  cases h with
  | legacy => cases hlegacy
  | multi hown hparts => rw [asMulti_of_multi hown]
  | @single members own hown hne hvalid hkey =>
      have hkind : own ≠ "kind" := kind_ne_of_isValidKind hvalid
      rw [asMulti_of_single hown hne, mem_kinds_of_multi rfl, kinds_of_find? hown, if_neg hne]
      show kind ∈ ["kind", own] ∧ kind ≠ "kind" ↔ kind ∈ [own]
      constructor
      · rintro ⟨hmem, hname⟩
        exact (List.mem_cons.mp hmem).resolve_left hname
      · intro hmem
        obtain rfl := List.mem_singleton.mp hmem
        exact ⟨List.mem_cons_of_mem _ hmem, hkind⟩

/-! ## With one more part

To insert a part replaces one that was there, which can only be one of the same kind. -/

/-- A context takes in a part of any kind. -/
theorem Valid.withPart (h : c.Valid) (hlegacy : c.legacy = false) (hkind : isValidKind kind = true)
    (hne : kind ≠ multiKind) (hkey : isValidKey (part.member? "key") = true) :
    (c.withPart kind part).Valid := by
  obtain ⟨members, hmembers, hown, hparts⟩ := h.asMulti hlegacy
  unfold Context.withPart
  rw [hmembers]
  refine .multi ?_ fun name p hmem hname => ?_
  · rw [Entries.find?_insert_of_ne (kind_ne_of_isValidKind hkind).symm, hown]
  · rcases Entries.mem_insert hmem with heq | hmem
    · cases heq
      exact ⟨hne, hkind, hkey⟩
    · exact hparts name p hmem hname

/-- The parts of other kinds stay. -/
theorem Valid.part?_withPart (h : c.Valid) (hlegacy : c.legacy = false)
    (hkind : isValidKind kind = true) {other : String} (hother : other ≠ kind) :
    (c.withPart kind part).part? other = c.part? other := by
  obtain ⟨members, hmembers, hown, -⟩ := h.asMulti hlegacy
  have hown' : Entries.find? "kind" (Entries.insert kind part members)
      = some (.string multiKind) := by
    rw [Entries.find?_insert_of_ne (kind_ne_of_isValidKind hkind).symm, hown]
  rw [← h.part?_asMulti hlegacy, Context.withPart, hmembers]
  by_cases hname : other = "kind"
  · subst hname
    unfold part?
    rw [if_neg Bool.false_ne_true, if_neg Bool.false_ne_true, ownKind?_of_find? hown,
      ownKind?_of_find? hown']
    rfl
  · rw [part?_eq_find? hown' hname, part?_eq_find? hown hname, Entries.find?_insert_of_ne hother]

end Context
end FeatureFlags
