import FeatureFlags.Context.Basic

/-! # The forms of a context

A context that a value is takes one of three forms (`valid_of_ofJson`), and whatever takes one of
them is the context that it says as a value (`Valid.ofJson_toJson`).

* **Legacy users** name no kind, and their key is text by now, whatever it was in the value.
* **Single contexts** name a kind that is not the one of several contexts, and have a key.
* **Several contexts** stand under their kinds, each of which can be a kind, and each with a key.

The forms are what later proofs take a context apart by, in place of the checks on values. -/

namespace FeatureFlags
namespace Context

/-! ## Forms

The checks go through the members of a context in order and stop at the first that fails; a form
says the same of each member by itself (`validateParts_eq_ok_iff`). -/

inductive Valid : Context → Prop where
  | legacy {members : Entries Json} {key : String} (hkind : isLegacy members = true)
      (hkey : Entries.find? "key" members = some (.string key)) : Valid ⟨members, true⟩
  | single {members : Entries Json} {kind : String}
      (hkind : Entries.find? "kind" members = some (.string kind)) (hne : kind ≠ multiKind)
      (hvalid : isValidKind kind = true)
      (hkey : isValidKey (Entries.find? "key" members) = true) : Valid ⟨members, false⟩
  | multi {members : Entries Json}
      (hkind : Entries.find? "kind" members = some (.string multiKind))
      (hparts : ∀ name part, (name, part) ∈ members → name ≠ "kind" →
        name ≠ multiKind ∧ isValidKind name = true ∧ isValidKey (part.member? "key") = true) :
      Valid ⟨members, false⟩

theorem kind_ne_of_isValidKind {kind : String} (h : isValidKind kind = true) : kind ≠ "kind" := by
  rintro rfl
  exact absurd h (by decide)

/-- The legacy users are the contexts that name no kind. -/
theorem Valid.legacy_eq {c : Context} (h : c.Valid) : c.legacy = isLegacy c.members := by
  cases h with
  | legacy hkind => exact hkind.symm
  | single hkind | multi hkind =>
      unfold isLegacy
      rw [hkind]
      rfl

theorem kind_eq_null {members : Entries Json} (h : isLegacy members = true) :
    (Entries.find? "kind" members).getD .null = .null := by
  unfold isLegacy at h
  split at h
  · next hnull => exact hnull
  · cases h

theorem validateParts_eq_ok_iff {parts : Entries Json} :
    validateParts parts = .ok () ↔ ∀ name part, (name, part) ∈ parts → name ≠ "kind" →
      name ≠ multiKind ∧ isValidKind name = true ∧ isValidKey (part.member? "key") = true := by
  induction parts with
  | nil => exact ⟨nofun, fun _ => rfl⟩
  | cons first rest ih =>
      obtain ⟨name, part⟩ := first
      rw [validateParts]
      constructor
      · intro h n p hmem hn
        split at h
        · next hname =>
          rcases List.mem_cons.mp hmem with heq | hmem
          · cases heq
            exact absurd hname hn
          · exact ih.mp h n p hmem hn
        · split at h
          · cases h
          · next hkind =>
            split at h
            · cases h
            · next hkey =>
              rcases List.mem_cons.mp hmem with heq | hmem
              · cases heq
                obtain ⟨hne, hvalid⟩ := not_or.mp hkind
                exact ⟨hne, Bool.not_eq_false _ ▸ fun h => hvalid (by rw [h]; rfl),
                  Bool.not_eq_false _ ▸ fun h => hkey (by rw [h]; rfl)⟩
              · exact ih.mp h n p hmem hn
      · intro h
        have hrest : validateParts rest = .ok () :=
          ih.mpr fun n p hmem => h n p (List.mem_cons_of_mem _ hmem)
        split
        · exact hrest
        · next hname =>
          obtain ⟨hne, hvalid, hkey⟩ := h name part List.mem_cons_self hname
          rw [if_neg (by rw [hvalid]; exact not_or.mpr ⟨hne, Bool.false_ne_true⟩),
            if_neg (by rw [hkey]; exact Bool.false_ne_true)]
          exact hrest

/-- An object that names its kind is a single context or holds several of them. -/
theorem valid_of_validateKind {members : Entries Json} {kind : String}
    (hkind : Entries.find? "kind" members = some (.string kind))
    (h : validateKind members kind = .ok ()) : Valid ⟨members, false⟩ := by
  unfold validateKind at h
  by_cases hmulti : kind = multiKind
  · rw [if_pos hmulti] at h
    subst hmulti
    exact .multi hkind (validateParts_eq_ok_iff.mp h)
  · rw [if_neg hmulti] at h
    split at h
    · cases h
    · next hvalid =>
      split at h
      · cases h
      · next hkey =>
        rw [Bool.not_eq_true', Bool.not_eq_false] at hvalid hkey
        exact .single hkind hmulti hvalid hkey

/-! ## From values and back

Making a context changes a legacy user only, and there nothing but its key. A context is accepted
again as it stands, since its key is text already. -/

theorem ofJson_object (members : Entries Json) :
    ofJson (.object members) = match validate members true with
      | .ok _ => .ok (if isLegacy members then
          let key := ((Entries.find? "key" members).map legacyKey).getD ""
          ⟨Entries.insert "key" (.string key) members, true⟩
        else ⟨members, false⟩)
      | .error e => .error e := by
  show (validate members true >>= fun _ => _) = _
  cases validate members true with
  | error e => rfl
  | ok _ =>
      show (if _ then _ else _) = _
      split <;> rfl

theorem isLegacy_insert_key (members : Entries Json) (key : Json) :
    isLegacy (Entries.insert "key" key members) = isLegacy members := by
  unfold isLegacy
  rw [Entries.find?_insert_of_ne (by decide)]

/-- The context that a value is takes one of the forms. -/
theorem valid_of_ofJson {v : Json} {c : Context} (h : ofJson v = .ok c) : c.Valid := by
  cases v with
  | null | bool | number | string | array => cases h
  | object members =>
      rw [ofJson_object] at h
      cases hval : validate members true with
      | error e =>
          rw [hval] at h
          cases h
      | ok _ =>
          rw [hval] at h
          cases h
          -- A kind that is missing or null makes a legacy user, and only text is a kind otherwise.
          by_cases hlegacy : isLegacy members = true
          · rw [if_pos hlegacy]
            have hkind := isLegacy_insert_key members
            exact .legacy ((hkind _).trans hlegacy) (Entries.find?_insert_self _ _ _)
          · rw [if_neg hlegacy]
            unfold isLegacy at hlegacy
            unfold validate at hval
            cases hk : Entries.find? "kind" members with
            | none =>
                rw [hk] at hlegacy
                exact absurd rfl hlegacy
            | some kind =>
                rw [hk] at hlegacy hval
                cases kind with
                | null => exact absurd rfl hlegacy
                | string kind => exact valid_of_validateKind hk hval
                | bool | number | array | object => cases hval

/-- A context names a member twice only if the value has done so. -/
theorem distinct_of_ofJson {v : Json} {c : Context} (hv : v.Distinct) (h : ofJson v = .ok c) :
    c.toJson.Distinct := by
  cases v with
  | null | bool | number | string | array => cases h
  | object members =>
      rw [ofJson_object] at h
      cases hval : validate members true with
      | error e =>
          rw [hval] at h
          cases h
      | ok _ =>
          rw [hval] at h
          cases h
          split
          · cases hv with
            | object hnames hmembers =>
                refine .object (Entries.nodup_names_insert hnames _ _) fun m hm => ?_
                rcases Entries.mem_insert hm with rfl | hm
                · exact .string _
                · exact hmembers m hm
          · exact hv

/-- What takes one of the forms is the context that it says as a value. -/
theorem Valid.ofJson_toJson {c : Context} (h : c.Valid) : ofJson c.toJson = .ok c := by
  cases h with
  | @legacy members key hkind hkey =>
      have hvalid : validate members true = .ok () := by
        unfold validate
        rw [kind_eq_null hkind, hkey]
        rfl
      show ofJson (.object members) = _
      rw [ofJson_object, hvalid, hkey]
      show Except.ok (if isLegacy members = true then
        Context.mk (Entries.insert "key" (.string key) members) true else _) = _
      rw [if_pos hkind, Entries.insert_of_find? hkey]
  | @single members kind hkind hne hvalid hkey =>
      have hval : validate members true = .ok () := by
        unfold validate
        rw [hkind]
        show validateKind members kind = .ok ()
        rw [validateKind, if_neg hne, hvalid, hkey]
        rfl
      show ofJson (.object members) = _
      rw [ofJson_object, hval, isLegacy, hkind]
      rfl
  | @multi members hkind hparts =>
      have hval : validate members true = .ok () := by
        unfold validate
        rw [hkind]
        exact validateParts_eq_ok_iff.mpr hparts
      show ofJson (.object members) = _
      rw [ofJson_object, hval, isLegacy, hkind]
      rfl

end Context
end FeatureFlags
