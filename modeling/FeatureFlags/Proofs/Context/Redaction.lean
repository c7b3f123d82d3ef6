import FeatureFlags.Context.Redaction
import FeatureFlags.Proofs.Attribute.Exclusion
import FeatureFlags.Proofs.Context.Valid

/-! # What a redacted context still says

A single context that is redacted has the members of the copy that leaves the private attributes
out, apart from those that describe privacy itself (`member?_redactPart`). Its kind and its key are
among them (`member?_redactPart_identity`), since no reference to these is ever followed.

So a redacted context is a context of the same form and the same kinds, and under each of them
stands what is left of the part (`Valid.redacted`, `IsRedactionOf`). This is proved for each of the
three forms: a legacy user and a single context are redacted as a whole, and of several contexts
each part is redacted under its kind. -/

namespace FeatureFlags
namespace Context

variable {c : Context} {kind name : String} {part : Json} {everywhere : List String}
  {allPrivate : Bool}

/-! ## One part

A redacted part ends in a new `_meta`, if anything has been taken away. The old one and the list of
private names are gone. -/

theorem find?_redactedMeta {excluded : List String} (hname : name ≠ "_meta") :
    Entries.find? name (redactedMeta excluded) = none := by
  unfold redactedMeta
  split
  · rfl
  · rw [Entries.find?_cons, if_neg hname.symm]
    rfl

/-- Beside what describes privacy, a redacted part has the members of the copy. -/
theorem member?_redactPart (hname : name ≠ "_meta") :
    (c.redactPart kind part everywhere allPrivate).member? name
      = if name = "privateAttributeNames" then none
        else (Exclusion.copy part (c.redactions kind part everywhere allPrivate)).member? name := by
  unfold redactPart
  dsimp only
  cases hcopy : Exclusion.copy part (c.redactions kind part everywhere allPrivate) with
  | object members =>
      show Entries.find? name (_ ++ redactedMeta _) = _
      rw [Entries.find?_append, find?_redactedMeta hname, Option.or_none]
      by_cases hlisted : name = "privateAttributeNames"
      · subst hlisted
        rw [if_pos rfl, Entries.find?_erase_self]
      · rw [if_neg hlisted, Entries.find?_erase_of_ne hlisted, Entries.find?_erase_of_ne hname]
        rfl
  | null | bool | number | string | array => exact (ite_self none).symm

/-- A path that may be taken away does not begin with what identifies or describes a context. -/
theorem isProtected_cons_eq_false {first : String} {rest : List String}
    (h : isProtected (first :: rest) = false) :
    first ≠ "kind" ∧ first ≠ "key" ∧ first ≠ "_meta" := by
  refine ⟨?_, ?_, ?_⟩
  all_goals
    rintro rfl
    cases rest <;> simp [isProtected] at h

/-- Of the members that identify a context nothing is left out. -/
theorem member?_copy_identity (hname : name = "kind" ∨ name = "key") :
    (Exclusion.copy part (c.redactions kind part everywhere allPrivate)).member? name
      = part.member? name := by
  refine Exclusion.member?_prune_of_head? (fun p hp hhead => ?_) part
  obtain ⟨rest, hnames⟩ := List.head?_eq_some_iff.mp hhead
  obtain ⟨r, hr, rfl⟩ := List.mem_map.mp hp
  obtain ⟨hmem, -⟩ := List.mem_filter.mp hr
  obtain ⟨-, hprotected⟩ := List.mem_filter.mp hmem
  rw [Bool.not_eq_true', show r.components = name :: rest from hnames] at hprotected
  obtain ⟨hkind, hkey, -⟩ := isProtected_cons_eq_false hprotected
  exact hname.elim hkind hkey

/-- A redacted part keeps its kind and its key. -/
theorem member?_redactPart_identity (hname : name = "kind" ∨ name = "key") :
    (c.redactPart kind part everywhere allPrivate).member? name = part.member? name := by
  have hmeta : name ≠ "_meta" := by
    rintro rfl
    exact absurd hname (by decide)
  have hlisted : name ≠ "privateAttributeNames" := by
    rintro rfl
    exact absurd hname (by decide)
  rw [member?_redactPart hmeta, if_neg hlisted, member?_copy_identity hname]

/-- A redacted object is an object with the same kind and the same key. -/
theorem redactPart_object (c : Context) (kind : String) (members : Entries Json)
    (everywhere : List String) (allPrivate : Bool) :
    ∃ members', c.redactPart kind (.object members) everywhere allPrivate = .object members' ∧
      ∀ name, name = "kind" ∨ name = "key" →
        Entries.find? name members' = Entries.find? name members := by
  obtain ⟨members', hmembers'⟩ : ∃ members',
      c.redactPart kind (.object members) everywhere allPrivate = .object members' := by
    unfold redactPart
    dsimp only
    rw [Exclusion.copy, Exclusion.prune]
    exact ⟨_, rfl⟩
  refine ⟨members', hmembers', fun name hname => ?_⟩
  have h : (c.redactPart kind (.object members) everywhere allPrivate).member? name
      = (Json.object members).member? name := member?_redactPart_identity hname
  rwa [hmembers'] at h

/-! ## The parts of the forms

What a form says of the members of a context decides about its kinds and parts. Most of this is read
off the lookup of the member `kind`. -/

theorem ownKind?_eq_none_of_isLegacy {members : Entries Json} {legacy : Bool}
    (h : isLegacy members = true) : ownKind? ⟨members, legacy⟩ = none := by
  unfold isLegacy at h
  unfold ownKind?
  cases hk : Entries.find? "kind" members with
  | none => rfl
  | some v =>
      rw [hk] at h
      cases v with
      | null => rfl
      | bool | number | string | array | object => cases h

theorem ownKind?_of_find? {members : Entries Json} {legacy : Bool} {own : String}
    (h : Entries.find? "kind" members = some (.string own)) :
    ownKind? ⟨members, legacy⟩ = some own := by
  unfold ownKind?
  rw [h]
  rfl

theorem isMulti_of_find? {members : Entries Json} {legacy : Bool} {own : String}
    (h : Entries.find? "kind" members = some (.string own)) :
    isMulti ⟨members, legacy⟩ = (own == multiKind) := by
  unfold isMulti
  rw [ownKind?_of_find? h]
  rfl

theorem isMulti_congr {c' : Context} (h : c.ownKind? = c'.ownKind?) : c.isMulti = c'.isMulti :=
  congrArg (fun own? => own? == some multiKind) h

theorem isMulti_of_isLegacy {members : Entries Json} {legacy : Bool}
    (h : isLegacy members = true) : isMulti ⟨members, legacy⟩ = false := by
  unfold isMulti
  rw [ownKind?_eq_none_of_isLegacy h]
  rfl

theorem kinds_of_isLegacy {members : Entries Json} {legacy : Bool} (h : isLegacy members = true) :
    kinds ⟨members, legacy⟩ = [defaultKind] := by
  show kindsOf (.object members) = _
  unfold kindsOf
  dsimp only
  rw [kind_eq_null h]

theorem kinds_of_find? {members : Entries Json} {legacy : Bool} {own : String}
    (h : Entries.find? "kind" members = some (.string own)) :
    kinds ⟨members, legacy⟩
      = if own = multiKind then (Entries.names members).filter (· ≠ "kind") else [own] := by
  show kindsOf (.object members) = _
  unfold kindsOf
  dsimp only
  rw [h]
  rfl

/-- A single context has a part of its own kind only. -/
theorem part?_of_single {members : Entries Json} {own : String}
    (h : Entries.find? "kind" members = some (.string own)) (hne : own ≠ multiKind)
    (kind : String) :
    part? ⟨members, false⟩ kind = if kind = own then some (.object members) else none := by
  have hpart : part? ⟨members, false⟩ kind
      = if own = multiKind then if kind = "kind" then none else Entries.find? kind members
        else if own = kind then some (.object members) else none := by
    unfold part?
    rw [if_neg Bool.false_ne_true, ownKind?_of_find? h]
    rfl
  rw [hpart, if_neg hne]
  by_cases hkind : kind = own
  · rw [if_pos hkind, if_pos hkind.symm]
  · rw [if_neg hkind, if_neg (Ne.symm hkind)]

theorem part?_eq_toJson {members : Entries Json} {own : String}
    (h : Entries.find? "kind" members = some (.string own)) (hne : own ≠ multiKind) :
    part? ⟨members, false⟩ own = some (.object members) := by
  rw [part?_of_single h hne, if_pos rfl]

theorem part?_eq_find? {members : Entries Json}
    (h : Entries.find? "kind" members = some (.string multiKind)) (hne : kind ≠ "kind") :
    part? ⟨members, false⟩ kind = Entries.find? kind members := by
  unfold part?
  rw [if_neg Bool.false_ne_true, ownKind?_of_find? h]
  show (if multiKind = multiKind then if kind = "kind" then none else Entries.find? kind members
    else if multiKind = kind then some (toJson ⟨members, false⟩) else none) = _
  rw [if_pos rfl, if_neg hne]

theorem mem_kinds_of_multi {members : Entries Json}
    (h : Entries.find? "kind" members = some (.string multiKind)) :
    kind ∈ kinds ⟨members, false⟩ ↔ kind ∈ Entries.names members ∧ kind ≠ "kind" := by
  rw [kinds_of_find? h, if_pos rfl, List.mem_filter, decide_eq_true_iff]

/-- Under each of its kinds a multi-kind context has a member as its part. -/
theorem exists_part_of_multi {members : Entries Json}
    (hkind : Entries.find? "kind" members = some (.string multiKind)) {kind : String}
    (hmem : kind ∈ kinds ⟨members, false⟩) :
    ∃ part, part? ⟨members, false⟩ kind = some part ∧ (kind, part) ∈ members := by
  obtain ⟨hname, hne⟩ := (mem_kinds_of_multi hkind).mp hmem
  rw [part?_eq_find? hkind hne]
  cases hfound : Entries.find? kind members with
  | none => exact absurd hname (Entries.find?_eq_none_iff.mp hfound)
  | some part => exact ⟨part, rfl, Entries.mem_of_find? hfound⟩

/-- The member that names the kind is no part. -/
theorem Valid.ne_kind_of_mem_kinds (h : c.Valid) (hmem : kind ∈ c.kinds) : kind ≠ "kind" := by
  cases h with
  | legacy hkind =>
      rw [kinds_of_isLegacy hkind] at hmem
      obtain rfl := List.mem_singleton.mp hmem
      decide
  | single hkind hne hvalid =>
      rw [kinds_of_find? hkind, if_neg hne] at hmem
      obtain rfl := List.mem_singleton.mp hmem
      exact kind_ne_of_isValidKind hvalid
  | multi hkind => exact ((mem_kinds_of_multi hkind).mp hmem).2

/-- A context that does not hold several has one kind. -/
theorem Valid.kinds_of_not_multi (h : c.Valid) (hmulti : c.isMulti = false) :
    c.kinds = [(c.ownKind?).getD defaultKind] := by
  cases h with
  | legacy hkind =>
      rw [kinds_of_isLegacy hkind, ownKind?_eq_none_of_isLegacy hkind, Option.getD_none]
  | single hkind hne =>
      rw [kinds_of_find? hkind, if_neg hne, ownKind?_of_find? hkind, Option.getD_some]
  | multi hkind =>
      rw [isMulti_of_find? hkind] at hmulti
      cases hmulti

/-- A context that does not hold several is the part of its kind. -/
theorem Valid.part?_of_not_multi (h : c.Valid) (hmulti : c.isMulti = false) (kind : String) :
    c.part? kind = if kind ∈ c.kinds then some c.toJson else none := by
  cases h with
  | @legacy members key hkind hkey =>
      simp only [kinds_of_isLegacy hkind, List.mem_singleton]
      rfl
  | single hkind hne =>
      simp only [part?_of_single hkind hne, kinds_of_find? hkind, if_neg hne, List.mem_singleton]
      rfl
  | multi hkind =>
      rw [isMulti_of_find? hkind] at hmulti
      cases hmulti

theorem Valid.part?_own (h : c.Valid) (hmulti : c.isMulti = false) :
    c.part? ((c.ownKind?).getD defaultKind) = some c.toJson := by
  rw [h.part?_of_not_multi hmulti, if_pos]
  rw [h.kinds_of_not_multi hmulti]
  exact List.mem_singleton_self _

/-- The parts of a context that holds several are its members. -/
theorem Valid.part?_of_multi (h : c.Valid) (hmulti : c.isMulti = true) (kind : String) :
    c.part? kind = if kind ∈ c.kinds then Entries.find? kind c.members else none := by
  cases h with
  | legacy hkind =>
      rw [isMulti_of_isLegacy hkind] at hmulti
      cases hmulti
  | single hkind hne =>
      rw [isMulti_of_find? hkind] at hmulti
      exact absurd (eq_of_beq hmulti) hne
  | @multi members hkind hparts =>
      -- The member `kind` is found like a part, but it is none.
      by_cases hname : kind = "kind"
      · subst hname
        rw [if_neg fun hmem => ((mem_kinds_of_multi hkind).mp hmem).2 rfl]
        unfold part?
        rw [if_neg Bool.false_ne_true, ownKind?_of_find? hkind]
        rfl
      · rw [part?_eq_find? hkind hname]
        split
        · rfl
        · next hmem =>
          refine Entries.find?_eq_none_iff.mpr fun hthere => hmem ?_
          exact (mem_kinds_of_multi hkind).mpr ⟨hthere, hname⟩

/-- A part of a context is the context or one of its members. -/
theorem part?_eq_some (h : c.part? kind = some part) :
    part = c.toJson ∨ c.toJson.member? kind = some part := by
  unfold part? at h
  split at h
  · split at h
    · exact .inl (Option.some.inj h).symm
    · cases h
  · cases hown : c.ownKind? with
    | none =>
        rw [hown] at h
        cases h
    | some own =>
        rw [hown, Option.bind_eq_bind, Option.bind_some] at h
        split at h
        · split at h
          · cases h
          · exact .inr h
        · split at h
          · exact .inl (Option.some.inj h).symm
          · cases h

theorem distinct_of_part? (hc : c.toJson.Distinct) (h : c.part? kind = some part) :
    part.Distinct := by
  rcases part?_eq_some h with rfl | hmember
  · exact hc
  · exact hc.of_member? hmember

/-! ## The whole context

The three forms are redacted to contexts of these forms again. Their kinds stay, so that each part
can be looked up under the kind that it had. -/

/-- The context has the form and the kinds of `c`, and under each of them what is left of the
part. -/
structure IsRedactionOf (c' c : Context) (everywhere : List String) (allPrivate : Bool) : Prop where
  legacy : c'.legacy = c.legacy
  ownKind? : c'.ownKind? = c.ownKind?
  kinds : c'.kinds = c.kinds
  part? : ∀ kind ∈ c.kinds, ∃ part, c.part? kind = some part ∧
    c'.part? kind = some (c.redactPart kind part everywhere allPrivate)

theorem redacted_legacy {members : Entries Json} {key : String} (hkind : isLegacy members = true)
    (hkey : Entries.find? "key" members = some (.string key)) :
    ∃ c' : Context, redacted ⟨members, true⟩ everywhere allPrivate = c'.toJson ∧ c'.Valid ∧
      c'.IsRedactionOf ⟨members, true⟩ everywhere allPrivate := by
  -- A legacy user is redacted like the only part of the default kind.
  have hown : ownKind? ⟨members, true⟩ = none := ownKind?_eq_none_of_isLegacy hkind
  obtain ⟨members', hmembers', hidentity⟩ :=
    redactPart_object ⟨members, true⟩ defaultKind members everywhere allPrivate
  have hkind' : isLegacy members' = true := by
    rw [isLegacy, hidentity "kind" (.inl rfl)]
    exact hkind
  have hkey' : Entries.find? "key" members' = some (.string key) :=
    (hidentity "key" (.inr rfl)).trans hkey
  refine ⟨⟨members', true⟩, ?_, .legacy hkind' hkey', rfl, ?_, ?_, ?_⟩
  · unfold redacted isMulti
    rw [hown]
    exact hmembers'
  · rw [hown, ownKind?_eq_none_of_isLegacy hkind']
  · rw [kinds_of_isLegacy hkind, kinds_of_isLegacy hkind']
  · intro kind hmem
    rw [kinds_of_isLegacy hkind] at hmem
    obtain rfl := List.mem_singleton.mp hmem
    exact ⟨.object members, rfl, congrArg some hmembers'.symm⟩

theorem redacted_single {members : Entries Json} {own : String}
    (hkind : Entries.find? "kind" members = some (.string own)) (hne : own ≠ multiKind)
    (hvalid : isValidKind own = true) (hkey : isValidKey (Entries.find? "key" members) = true) :
    ∃ c' : Context, redacted ⟨members, false⟩ everywhere allPrivate = c'.toJson ∧ c'.Valid ∧
      c'.IsRedactionOf ⟨members, false⟩ everywhere allPrivate := by
  have hown : ownKind? ⟨members, false⟩ = some own := ownKind?_of_find? hkind
  obtain ⟨members', hmembers', hidentity⟩ :=
    redactPart_object ⟨members, false⟩ own members everywhere allPrivate
  have hkind' : Entries.find? "kind" members' = some (.string own) :=
    (hidentity "kind" (.inl rfl)).trans hkind
  have hkey' : isValidKey (Entries.find? "key" members') = true := by
    rw [hidentity "key" (.inr rfl)]
    exact hkey
  refine ⟨⟨members', false⟩, ?_, .single hkind' hne hvalid hkey', rfl, ?_, ?_, ?_⟩
  · have hmulti : isMulti ⟨members, false⟩ = false :=
      (isMulti_of_find? hkind).trans (beq_eq_false_iff_ne.mpr hne)
    unfold redacted
    rw [hmulti, hown]
    exact hmembers'
  · rw [hown, ownKind?_of_find? hkind']
  · rw [kinds_of_find? hkind, kinds_of_find? hkind', if_neg hne, if_neg hne]
  · intro kind hmem
    rw [kinds_of_find? hkind, if_neg hne] at hmem
    obtain rfl := List.mem_singleton.mp hmem
    exact ⟨.object members, part?_eq_toJson hkind hne,
      (part?_eq_toJson hkind' hne).trans (congrArg some hmembers'.symm)⟩

def redactedParts (c : Context) (everywhere : List String) (allPrivate : Bool) : Entries Json :=
  c.kinds.filterMap fun kind =>
    (c.part? kind).map fun part => (kind, c.redactPart kind part everywhere allPrivate)

theorem find?_redactedParts :
    Entries.find? kind (c.redactedParts everywhere allPrivate)
      = if kind ∈ c.kinds then
          (c.part? kind).map fun part => c.redactPart kind part everywhere allPrivate
        else none := by
  have hparts : c.redactedParts everywhere allPrivate = c.kinds.filterMap fun kind =>
      ((c.part? kind).map fun part => c.redactPart kind part everywhere allPrivate).map
        fun part => (kind, part) := by
    unfold redactedParts
    simp only [Option.map_map]
    rfl
  rw [hparts, Entries.find?_filterMap]

theorem names_redactedParts (h : ∀ kind ∈ c.kinds, ∃ part, c.part? kind = some part) :
    (c.redactedParts everywhere allPrivate).names = c.kinds := by
  unfold redactedParts Entries.names
  generalize c.kinds = kinds at h ⊢
  induction kinds with
  | nil => rfl
  | cons kind kinds ih =>
      obtain ⟨part, hpart⟩ := h kind List.mem_cons_self
      rw [List.filterMap_cons, hpart, Option.map_some, List.map_cons,
        ih fun k hk => h k (List.mem_cons_of_mem kind hk)]

theorem redacted_multi {members : Entries Json}
    (hkind : Entries.find? "kind" members = some (.string multiKind))
    (hparts : ∀ name part, (name, part) ∈ members → name ≠ "kind" →
      name ≠ multiKind ∧ isValidKind name = true ∧ isValidKey (part.member? "key") = true) :
    ∃ c' : Context, redacted ⟨members, false⟩ everywhere allPrivate = c'.toJson ∧ c'.Valid ∧
      c'.IsRedactionOf ⟨members, false⟩ everywhere allPrivate := by
  have hown : ownKind? ⟨members, false⟩ = some multiKind := ownKind?_of_find? hkind
  have hpart : ∀ kind ∈ kinds ⟨members, false⟩, ∃ part, part? ⟨members, false⟩ kind = some part ∧
      (kind, part) ∈ members := fun _ => exists_part_of_multi hkind
  let members' : Entries Json :=
    ("kind", .string multiKind) :: redactedParts ⟨members, false⟩ everywhere allPrivate
  have hkind' : Entries.find? "kind" members' = some (.string multiKind) := if_pos rfl
  have hkinds : kinds ⟨members', false⟩ = kinds ⟨members, false⟩ := by
    have hnames : Entries.names members' = "kind" :: kinds ⟨members, false⟩ :=
      congrArg (List.cons "kind") (names_redactedParts fun kind hmem =>
        (hpart kind hmem).imp fun _ h => h.1)
    rw [kinds_of_find? hkind', if_pos rfl, hnames, kinds_of_find? hkind, if_pos rfl,
      List.filter_cons_of_neg (by decide), List.filter_filter]
    simp only [Bool.and_self]
  refine ⟨⟨members', false⟩, ?_, .multi hkind' ?_, rfl, ?_, hkinds, ?_⟩
  · unfold redacted isMulti
    rw [hown]
    rfl
  -- A part keeps its key, so it is a part of a context again.
  · intro name part' hmem hne
    rcases List.mem_cons.mp hmem with heq | hmem
    · cases heq
      exact absurd rfl hne
    · obtain ⟨kind, hk, heq⟩ := List.mem_filterMap.mp hmem
      obtain ⟨part, hfound, hstored⟩ := hpart kind hk
      rw [hfound] at heq
      cases heq
      obtain ⟨hnotMulti, hvalid, hkey⟩ := hparts name part hstored hne
      refine ⟨hnotMulti, hvalid, ?_⟩
      rw [member?_redactPart_identity (.inr rfl)]
      exact hkey
  · rw [hown, ownKind?_of_find? hkind']
  · intro kind hmem
    obtain ⟨part, hfound, -⟩ := hpart kind hmem
    obtain ⟨-, hne⟩ := (mem_kinds_of_multi hkind).mp hmem
    refine ⟨part, hfound, ?_⟩
    rw [part?_eq_find? hkind' hne, Entries.find?_cons, if_neg hne.symm, find?_redactedParts,
      if_pos hmem, hfound]
    rfl

/-- **A redacted context is a context** of the same form, and under each of its kinds stands what is
left of the part. -/
theorem Valid.redacted {c : Context} (h : c.Valid) (everywhere : List String) (allPrivate : Bool) :
    ∃ c' : Context, c.redacted everywhere allPrivate = c'.toJson ∧ c'.Valid ∧
      c'.IsRedactionOf c everywhere allPrivate := by
  cases h with
  | legacy hkind hkey => exact redacted_legacy hkind hkey
  | single hkind hne hvalid hkey => exact redacted_single hkind hne hvalid hkey
  | multi hkind hparts => exact redacted_multi hkind hparts

end Context
end FeatureFlags
