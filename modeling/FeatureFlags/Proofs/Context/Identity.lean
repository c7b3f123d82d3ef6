import FeatureFlags.Context.CanonicalKey
import FeatureFlags.Proofs.Context.Redaction

/-! # Redaction keeps the identity of a context

The canonical key of a context is made from the kind that it names itself, from its kinds and from
their keys (`Valid.canonicalKeyOf?_eq`). Redaction leaves all of these alone, so a redacted context
is identified as the context was, whatever is private in it (`redacted_keeps_identity`).

That no kind is repeated is needed for the first step: the canonical key goes through the members of
a context, and the key of a kind is the one of the part that is found under its name. A value that
names no member twice is a context without repeated kinds (`nodup_kinds_of_ofJson`). -/

namespace FeatureFlags
namespace Context

variable {c c' : Context} {members : Entries Json} {kind : String} {everywhere : List String}
  {allPrivate : Bool}

/-! ## The canonical key by kinds and keys

`identity?` is the canonical key as a function of the three alone. For several kinds it sorts them
and joins each kind with its key; for one kind that is not the default it puts the kind in front. -/

def kindsWithKeys? (kinds : List String) (key? : String → Option String) :
    Option (List (String × String)) :=
  kinds.mapM fun kind => (key? kind).map fun key => (kind, key)

/-- The canonical key that the kind of a context, its kinds and their keys make up. -/
def identity? (own? : Option String) (kinds : List String) (key? : String → Option String) :
    Option String :=
  match own? with
  | none => do nonEmpty? (← key? defaultKind)
  | some own =>
    if own = defaultKind then do nonEmpty? (← key? own)
    else if own = multiKind then do
      let keys ← kindsWithKeys? kinds key?
      return ":".intercalate ((sortByKind keys).map fun p => kindAndKey p.1 p.2)
    else do
      let key ← nonEmpty? (← key? own)
      return kindAndKey own key

theorem partKeys?_eq (key? : String → Option String)
    (h : ∀ e ∈ members, e.1 ≠ "kind" → key? e.1 = (e.2.member? "key").bind Json.text?) :
    partKeys? members = kindsWithKeys? ((Entries.names members).filter (· ≠ "kind")) key? := by
  induction members with
  | nil => rfl
  | cons e rest ih =>
      obtain ⟨name, part⟩ := e
      have hrest := ih fun e he => h e (List.mem_cons_of_mem _ he)
      rw [partKeys?]
      by_cases hname : name = "kind"
      · subst hname
        rw [if_pos rfl, hrest]
        rfl
      · have hkinds : (Entries.names ((name, part) :: rest)).filter (· ≠ "kind")
            = name :: (Entries.names rest).filter (· ≠ "kind") :=
          List.filter_cons_of_pos (decide_eq_true hname)
        rw [if_neg hname, hkinds, kindsWithKeys?, List.mapM_cons, ← kindsWithKeys?, ← hrest,
          h (name, part) List.mem_cons_self hname]
        -- A part without a key, or with one that is no text, leaves both without a result.
        cases part.member? "key" with
        | none => rfl
        | some key =>
            simp only [Option.bind_eq_bind, Option.bind_some]
            cases key.text? <;> rfl

/-- Kinds that are not repeated lead to their parts. -/
theorem find?_of_nodup_kinds (hkind : Entries.find? "kind" members = some (.string multiKind))
    (hnodup : (kinds ⟨members, false⟩).Nodup) {e : String × Json} (he : e ∈ members)
    (hne : e.1 ≠ "kind") : Entries.find? e.1 members = some e.2 := by
  -- The member that names the kind may be repeated, but it is no part.
  rw [← Entries.find?_erase_of_ne hne]
  refine Entries.find?_of_mem ?_ (List.mem_filter.mpr ⟨he, decide_eq_true hne⟩)
  rw [kinds_of_find? hkind, if_pos rfl, Entries.names, List.filter_map] at hnodup
  exact hnodup

/-- The key of the only kind is the key of the object. -/
theorem Valid.key?_of_not_multi (h : c.Valid) (hmulti : c.isMulti = false) :
    c.key? ((c.ownKind?).getD defaultKind) = (Entries.find? "key" c.members).bind Json.text? := by
  unfold key?
  rw [h.part?_own hmulti]
  rfl

/-- The canonical key depends on nothing but the kinds and their keys. -/
theorem Valid.canonicalKeyOf?_eq (h : c.Valid) (hnodup : c.kinds.Nodup) :
    canonicalKeyOf? c.toJson = identity? c.ownKind? c.kinds c.key? := by
  have hkey? := h.key?_of_not_multi
  cases h with
  | @legacy members key hkind hkey =>
      specialize hkey? (isMulti_of_isLegacy hkind)
      rw [ownKind?_eq_none_of_isLegacy hkind, Option.getD_none] at hkey?
      -- The key of a legacy user has become text with the context, so it is read as it stands.
      rw [ownKind?_eq_none_of_isLegacy hkind, identity?, hkey?, toJson, canonicalKeyOf?,
        kind_eq_null hkind, hkey]
      rfl
  | @single members own hkind hne hvalid hkey =>
      specialize hkey? ((isMulti_of_find? hkind).trans (beq_eq_false_iff_ne.mpr hne))
      rw [ownKind?_of_find? hkind, Option.getD_some] at hkey?
      rw [ownKind?_of_find? hkind, identity?, hkey?, toJson, canonicalKeyOf?, hkind,
        Option.getD_some]
      dsimp only
      rw [if_neg hne, if_neg hne]
      cases Entries.find? "key" members with
      | none => rfl
      | some key => rfl
  | @multi members hkind hparts =>
      have hparts? : partKeys? members
          = kindsWithKeys? (kinds ⟨members, false⟩) (key? ⟨members, false⟩) := by
        rw [kinds_of_find? hkind, if_pos rfl]
        refine partKeys?_eq _ fun e he hne => ?_
        rw [key?, part?_eq_find? hkind hne, find?_of_nodup_kinds hkind hnodup he hne]
        rfl
      rw [ownKind?_of_find? hkind, identity?, toJson, canonicalKeyOf?, hkind, Option.getD_some,
        ← hparts?]
      rfl

/-! ## Kinds that are not repeated

The kinds of a context are its member names, or the single one that it names itself. -/

theorem nodup_kinds (h : (Entries.names c.members).Nodup) : c.kinds.Nodup := by
  unfold kinds kindsOf toJson
  dsimp only
  split
  · exact List.pairwise_singleton _ _
  · split
    · exact h.filter _
    · exact List.pairwise_singleton _ _
  · exact List.nodup_nil

/-- A value that repeats no name is a context that repeats no kind. -/
theorem nodup_kinds_of_ofJson {v : Json} (hv : v.Distinct) (hc : ofJson v = .ok c) :
    c.kinds.Nodup := by
  cases v with
  | null | bool | number | string | array => cases hc
  | object members =>
      cases hv with
      | object hnames _ =>
          rw [ofJson_object] at hc
          split at hc
          · split at hc
            · cases hc
              exact nodup_kinds (Entries.nodup_names_insert hnames _ _)
            · cases hc
              exact nodup_kinds hnames
          · cases hc

/-! ## After redaction

What is left of a context has its form and its kinds, and each of its parts has its key. -/

/-- Of kinds that a context does not have it has no part. -/
theorem Valid.part?_eq_none (h : c.Valid) (hkind : kind ∉ c.kinds) : c.part? kind = none := by
  cases hmulti : c.isMulti with
  | true => rw [h.part?_of_multi hmulti, if_neg hkind]
  | false => rw [h.part?_of_not_multi hmulti, if_neg hkind]

/-- What is left of a part has its key. -/
theorem IsRedactionOf.key? (h : c'.IsRedactionOf c everywhere allPrivate) (hc : c.Valid)
    (hc' : c'.Valid) (kind : String) : c'.key? kind = c.key? kind := by
  unfold Context.key?
  by_cases hkind : kind ∈ c.kinds
  · obtain ⟨part, hpart, hpart'⟩ := h.part? kind hkind
    rw [hpart, hpart']
    show (Json.member? "key" _).bind _ = (Json.member? "key" _).bind _
    rw [member?_redactPart_identity (.inr rfl)]
  · rw [hc.part?_eq_none hkind, hc'.part?_eq_none (h.kinds ▸ hkind)]

/-- **Redaction keeps the identity of a context.** Whatever is private in a context, and whether all
of it is, the redacted value is accepted as a context again. It has the same form, the same kinds in
the same order, the same key for every kind, and the same canonical key. -/
theorem redacted_keeps_identity (v : Json) (hv : v.Distinct) (c : Context) (hc : ofJson v = .ok c)
    (everywhere : List String) (allPrivate : Bool) :
    ∃ c', ofJson (c.redacted everywhere allPrivate) = .ok c' ∧
      c'.toJson = c.redacted everywhere allPrivate ∧ c'.legacy = c.legacy ∧
      c'.isMulti = c.isMulti ∧ c'.kinds = c.kinds ∧ (∀ kind, c'.key? kind = c.key? kind) ∧
      c'.canonicalKey = c.canonicalKey := by
  have hvalid : c.Valid := valid_of_ofJson hc
  have hnodup : c.kinds.Nodup := nodup_kinds_of_ofJson hv hc
  obtain ⟨c', hjson, hvalid', hredaction⟩ := hvalid.redacted everywhere allPrivate
  have hkey : ∀ kind, c'.key? kind = c.key? kind := hredaction.key? hvalid hvalid'
  refine ⟨c', ?_, hjson.symm, hredaction.legacy, ?_, hredaction.kinds, hkey, ?_⟩
  · rw [hjson]
    exact hvalid'.ofJson_toJson
  · exact isMulti_congr hredaction.ownKind?
  · have hnodup' : c'.kinds.Nodup := by
      rw [hredaction.kinds]
      exact hnodup
    rw [canonicalKey, canonicalKey, hvalid.canonicalKeyOf?_eq hnodup,
      hvalid'.canonicalKeyOf?_eq hnodup', hredaction.ownKind?, hredaction.kinds, funext hkey]

/-- References that name the kind, the key or what stands below the key, as texts or as paths, take
nothing away that identifies the parts. -/
theorem redacted_keeps_identity_multi :
    let v : Json := .object [("org", .object [("key", .string "o:1"),
        ("_meta", .object [("privateAttributes", .array [.string "/key", .string "key/x"])])]),
      ("kind", .string "multi"), ("user", .object [("key", .string "u"), ("name", .string "x")])]
    let everywhere := ["kind", "key", "/key/x", "user", "/name"]
    ∃ c c', ofJson v = .ok c ∧ ofJson (c.redacted everywhere false) = .ok c' ∧
      c'.kinds = ["org", "user"] ∧ c'.key? "org" = some "o:1" ∧
      c'.canonicalKey = c.canonicalKey := by
  intro v everywhere
  have hc : ofJson v = .ok ⟨v.members?.getD [], false⟩ := rfl
  have hv : v.Distinct := by
    refine .object (by decide) (List.forall_mem_cons.mpr ⟨?_, List.forall_mem_cons.mpr
      ⟨.string _, List.forall_mem_singleton.mpr ?_⟩⟩)
    · refine .object (by decide) (List.forall_mem_cons.mpr ⟨.string _,
        List.forall_mem_singleton.mpr (.object (by decide) (List.forall_mem_singleton.mpr ?_))⟩)
      exact .array (List.forall_mem_cons.mpr ⟨.string _, List.forall_mem_singleton.mpr (.string _)⟩)
    · exact .object (by decide) (List.forall_mem_cons.mpr
        ⟨.string _, List.forall_mem_singleton.mpr (.string _)⟩)
  obtain ⟨c', hjson, -, -, -, hkinds, hkey, hcanonical⟩ :=
    redacted_keeps_identity v hv _ hc everywhere false
  refine ⟨_, c', hc, hjson, ?_, ?_, hcanonical⟩
  · rw [hkinds]
    rfl
  · rw [hkey]
    rfl

end Context
end FeatureFlags
