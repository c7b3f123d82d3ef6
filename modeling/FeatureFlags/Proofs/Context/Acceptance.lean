import FeatureFlags.Proofs.Context.Identity

/-! # Which values are contexts

There are two checks of a value: one that lets legacy users keep their key, whatever it is, and a
stricter one.

* **The first one** (`exists_ofJson_iff`) — the values that pass it are exactly the contexts.
* **The stricter one** (`ofJson_of_check_false`) — what passes it passes the other one too, and is a
  context as it stands.

After that nothing has to be checked again: a context is the context that it says as a value, and
for exactly its kinds it has a part and a key (`Guarantees`, `ofJson_guarantees`). -/

namespace FeatureFlags
namespace Context

variable {c : Context} {v : Json} {members : Entries Json} {kind : String}

/-! ## The two checks

The checks differ for values without a kind only. -/

theorem check_object (members : Entries Json) (allowLegacyKey : Bool) :
    check (.object members) allowLegacyKey = true
      ↔ validate members allowLegacyKey = .ok () := by
  show (validate members allowLegacyKey).isOk = true ↔ _
  cases validate members allowLegacyKey with
  | error e => exact ⟨nofun, nofun⟩
  | ok _ => exact ⟨fun _ => rfl, fun _ => rfl⟩

/-- A valid key is a text. -/
theorem exists_of_isValidKey {key : Option Json} (h : isValidKey key = true) :
    ∃ s, key = some (.string s) ∧ s ≠ "" := by
  unfold isValidKey at h
  split at h
  · next s => exact ⟨s, rfl, bne_iff_ne.mp h⟩
  · cases h

/-- Without a kind, the stricter check asks for the key of a user. -/
theorem validate_false_of_isLegacy (hlegacy : isLegacy members = true)
    (h : validate members false = .ok ()) :
    ∃ key, Entries.find? "key" members = some (.string key) ∧ key ≠ "" := by
  unfold validate at h
  rw [kind_eq_null hlegacy] at h
  have huser : validateKind members defaultKind = .ok () := h
  unfold validateKind at huser
  rw [if_neg (by decide), if_neg (by decide)] at huser
  split at huser
  · cases huser
  · next hkey =>
    rw [Bool.not_eq_true', Bool.not_eq_false] at hkey
    exact exists_of_isValidKey hkey

/-- The stricter check lets nothing through that the other one stops. -/
theorem validate_true_of_false (h : validate members false = .ok ()) :
    validate members true = .ok () := by
  by_cases hlegacy : isLegacy members = true
  · obtain ⟨key, hkey, -⟩ := validate_false_of_isLegacy hlegacy h
    unfold validate
    rw [kind_eq_null hlegacy, hkey]
    rfl
  · -- Where the object names a kind, both checks look at it alike.
    unfold isLegacy at hlegacy
    unfold validate at h ⊢
    generalize (Entries.find? "kind" members).getD .null = own at h hlegacy ⊢
    cases own with
    | null => exact absurd rfl hlegacy
    | string own => exact h
    | bool | number | array | object => cases h

/-- The contexts are the values that pass the check. -/
theorem exists_ofJson_iff (v : Json) : (∃ c, ofJson v = .ok c) ↔ check v true = true := by
  cases v with
  | null | bool | number | string | array => exact ⟨nofun, nofun⟩
  | object members =>
      rw [check_object, ofJson_object]
      cases validate members true with
      | error e => exact ⟨nofun, nofun⟩
      | ok _ => exact ⟨fun _ => rfl, fun _ => ⟨_, rfl⟩⟩

/-- What passes the stricter check is a context as it stands. -/
theorem ofJson_of_check_false (h : check v false = true) :
    check v true = true ∧ ∃ c, ofJson v = .ok c ∧ c.toJson = v := by
  cases v with
  | null | bool | number | string | array => cases h
  | object members =>
      rw [check_object] at h
      have hval := validate_true_of_false h
      refine ⟨(check_object members true).mpr hval, ?_⟩
      rw [ofJson_object, hval]
      refine ⟨_, rfl, ?_⟩
      by_cases hlegacy : isLegacy members = true
      · -- The key is a text already, so it is put back where it was.
        obtain ⟨key, hkey, -⟩ := validate_false_of_isLegacy hlegacy h
        rw [if_pos hlegacy, hkey]
        exact congrArg Json.object (Entries.insert_of_find? hkey)
      · rw [if_neg hlegacy]
        rfl

/-! ## Kinds, parts and keys

What the check has seen of a kind is there when the kind is looked up. For several contexts this
needs the member found under a kind to be one that has been checked, and all members have been. -/

/-- The kinds of a context have the names of kinds, and none of them stands for several. -/
theorem Valid.isValidKind_of_mem_kinds (h : c.Valid) (hmem : kind ∈ c.kinds) :
    isValidKind kind = true ∧ kind ≠ multiKind := by
  cases h with
  | legacy hkind =>
      rw [kinds_of_isLegacy hkind] at hmem
      obtain rfl := List.mem_singleton.mp hmem
      decide
  | single hkind hne hvalid =>
      rw [kinds_of_find? hkind, if_neg hne] at hmem
      obtain rfl := List.mem_singleton.mp hmem
      exact ⟨hvalid, hne⟩
  | multi hkind hparts =>
      obtain ⟨hname, hne⟩ := (mem_kinds_of_multi hkind).mp hmem
      obtain ⟨e, he, rfl⟩ := List.mem_map.mp hname
      obtain ⟨hmulti, hvalid, -⟩ := hparts e.1 e.2 he hne
      exact ⟨hvalid, hmulti⟩

/-- Under each of its kinds a context has a part with a key. Only the key of a legacy user may be
empty. -/
theorem Valid.exists_part (h : c.Valid) (hmem : kind ∈ c.kinds) :
    ∃ part key, c.part? kind = some part ∧ part.member? "key" = some (.string key) ∧
      (c.legacy = false → key ≠ "") := by
  cases h with
  | @legacy members key hkind hkey =>
      rw [kinds_of_isLegacy hkind] at hmem
      obtain rfl := List.mem_singleton.mp hmem
      exact ⟨.object members, key, rfl, hkey, nofun⟩
  | @single members own hkind hne hvalid hkey =>
      rw [kinds_of_find? hkind, if_neg hne] at hmem
      obtain rfl := List.mem_singleton.mp hmem
      obtain ⟨key, hkey, hnonempty⟩ := exists_of_isValidKey hkey
      exact ⟨.object members, key, part?_eq_toJson hkind hne, hkey, fun _ => hnonempty⟩
  | @multi members hkind hparts =>
      obtain ⟨-, hne⟩ := (mem_kinds_of_multi hkind).mp hmem
      obtain ⟨part, hpart, hmember⟩ := exists_part_of_multi hkind hmem
      obtain ⟨-, -, hvalid⟩ := hparts kind part hmember hne
      obtain ⟨key, hkey, hnonempty⟩ := exists_of_isValidKey hvalid
      exact ⟨part, key, hpart, hkey, fun _ => hnonempty⟩

theorem Valid.exists_key (h : c.Valid) (hmem : kind ∈ c.kinds) :
    ∃ key, c.key? kind = some key ∧ (c.legacy = false → key ≠ "") := by
  obtain ⟨part, key, hpart, hkey, hnonempty⟩ := h.exists_part hmem
  refine ⟨key, ?_, hnonempty⟩
  rw [key?, hpart, Option.bind_eq_bind, Option.bind_some, hkey]
  rfl

/-- A key is the key of a part. -/
theorem isSome_part?_of_key? (h : (c.key? kind).isSome = true) : (c.part? kind).isSome = true := by
  unfold key? at h
  cases hpart : c.part? kind with
  | none =>
      rw [hpart] at h
      cases h
  | some part => rfl

theorem Valid.mem_kinds_of_part? (h : c.Valid) (hpart : (c.part? kind).isSome = true) :
    kind ∈ c.kinds := by
  by_cases hmem : kind ∈ c.kinds
  · exact hmem
  · rw [h.part?_eq_none hmem] at hpart
    cases hpart

/-- The kinds of a context are those that it has a part of. -/
theorem Valid.mem_kinds_iff_part? (h : c.Valid) :
    kind ∈ c.kinds ↔ (c.part? kind).isSome = true := by
  constructor
  · intro hmem
    obtain ⟨part, -, hpart, -⟩ := h.exists_part hmem
    rw [hpart]
    rfl
  · exact h.mem_kinds_of_part?

/-- The kinds of a context are those that it has a key for. -/
theorem Valid.mem_kinds_iff_key? (h : c.Valid) : kind ∈ c.kinds ↔ (c.key? kind).isSome = true := by
  constructor
  · intro hmem
    obtain ⟨key, hkey, -⟩ := h.exists_key hmem
    rw [hkey]
    rfl
  · exact fun hkey => h.mem_kinds_of_part? (isSome_part?_of_key? hkey)

/-! ## What a context guarantees

The guarantees follow from the form of a context, and from its value naming no member twice. -/

structure Guarantees (c : Context) : Prop where
  ofJson : ofJson c.toJson = .ok c
  nodup : c.kinds.Nodup
  isKind : ∀ kind ∈ c.kinds, Context.isValidKind kind = true ∧ kind ≠ multiKind
  part : ∀ kind, kind ∈ c.kinds ↔ (c.part? kind).isSome = true
  key : ∀ kind, kind ∈ c.kinds ↔ (c.key? kind).isSome = true
  nonempty : c.legacy = false → ∀ kind key, c.key? kind = some key → key ≠ ""

theorem Valid.guarantees (h : c.Valid) (hnodup : c.kinds.Nodup) : c.Guarantees where
  ofJson := h.ofJson_toJson
  nodup := hnodup
  isKind := fun _ hmem => h.isValidKind_of_mem_kinds hmem
  part := fun _ => h.mem_kinds_iff_part?
  key := fun _ => h.mem_kinds_iff_key?
  nonempty := by
    intro hlegacy kind key hkey
    obtain ⟨key', hkey', hnonempty⟩ := h.exists_key (h.mem_kinds_iff_key?.mpr (by rw [hkey]; rfl))
    obtain rfl := Option.some.inj (hkey.symm.trans hkey')
    exact hnonempty hlegacy

/-- **What a context guarantees.** The contexts are the values that pass the check; what passes it
without the leave for legacy users is a context as it stands. A context stays what it is when it is
read again, and it has a part and a key for exactly its kinds. -/
theorem ofJson_guarantees (v : Json) (hv : v.Distinct) :
    ((∃ c, ofJson v = .ok c) ↔ check v true = true) ∧
      (check v false = true → check v true = true ∧ ∃ c, ofJson v = .ok c ∧ c.toJson = v) ∧
      ∀ c, ofJson v = .ok c → c.Guarantees :=
  ⟨exists_ofJson_iff v, ofJson_of_check_false, fun _ hc =>
    (valid_of_ofJson hc).guarantees (nodup_kinds_of_ofJson hv hc)⟩

/-- A legacy user whose key is a list passes one of the checks only. With the text of that list as
its key it passes both, and is the same context. -/
theorem ofJson_guarantees_legacy :
    let part : Json := .object [("key", .string "p")]
    let v : Json := .object [("kind", .null), ("org", part), ("key", .array [.bool false, .null])]
    let w : Json := .object [("kind", .null), ("org", part), ("key", .string "[false,null]")]
    v.Distinct ∧ w.Distinct ∧ check v true = true ∧ check v false = false ∧ check w false = true ∧
      ∃ c, ofJson v = .ok c ∧ ofJson w = .ok c ∧ c.toJson = w ∧ c.Guarantees ∧
        c.kinds = ["user"] ∧ c.key? "org" = none := by
  intro part v w
  have hv : v.Distinct := by decide
  have hw : w.Distinct := by decide
  obtain ⟨hcheck, -, hguarantees⟩ := ofJson_guarantees v hv
  obtain ⟨-, hstands, -⟩ := ofJson_guarantees w hw
  obtain ⟨-, c, hcw, htoJson⟩ := hstands rfl
  have hcv : ofJson v = .ok c := hcw
  refine ⟨hv, hw, hcheck.mp ⟨c, hcv⟩, rfl, rfl, c, hcv, hcw, htoJson, hguarantees c hcv, ?_⟩
  cases hcw
  exact ⟨rfl, rfl⟩

end Context
end FeatureFlags
