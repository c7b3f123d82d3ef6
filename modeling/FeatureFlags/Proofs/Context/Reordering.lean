import Mathlib.Data.List.Forall2
import FeatureFlags.Proofs.Context.CanonicalKey

/-! # Contexts whose members stand in another order

Objects keep their members in order, but the order says nothing. Where two values differ in nothing
else, at any depth (`Json.Reordered`), what is found under a name differs in nothing else either
(`Json.Reordered.rel_member?`).

So the contexts that they are have the same kinds and keys, parts and attributes that differ in
nothing else, and one canonical key (`Context.SameUpToOrder`). Kinds may stand in another order as
well; where this could be seen, in canonical keys, they are sorted. -/

namespace FeatureFlags

/-! ## Values

Members may change places, and any of them may differ in the same way itself. That no name is
repeated is needed for the first: of two members of one name, the one in front is found. -/

/-- The values differ only in the order of the members of objects, at any depth. -/
inductive Json.Reordered : Json → Json → Prop
  | refl (v : Json) : Reordered v v
  | array {vs ws : List Json} : List.Forall₂ Reordered vs ws → Reordered (array vs) (array ws)
  | object {ms between ns : Entries Json} : ms.Perm between →
      Entries.names between = Entries.names ns →
      List.Forall₂ Reordered (between.map Prod.snd) (ns.map Prod.snd) →
      Reordered (object ms) (object ns)

/-- What is made of related values is related. -/
theorem rel_bind {α β : Type} {R : α → α → Prop} {S : β → β → Prop} {a b : Option α}
    {f g : α → Option β} (h : Option.Rel R a b)
    (hfg : ∀ v w, a = some v → R v w → Option.Rel S (f v) (g w)) :
    Option.Rel S (a.bind f) (b.bind g) := by
  cases h with
  | none => exact .none
  | some h => exact hfg _ _ rfl h

/-- Entries of the same names are looked up alike. -/
theorem Entries.rel_find? {α : Type} {R : α → α → Prop} {es es' : Entries α}
    (hnames : es.names = es'.names) (h : List.Forall₂ R (es.map Prod.snd) (es'.map Prod.snd))
    (name : String) : Option.Rel R (find? name es) (find? name es') := by
  induction es generalizing es' with
  | nil =>
      cases es' with
      | nil => exact .none
      | cons e' es' => cases hnames
  | cons e es ih =>
      cases es' with
      | nil => cases hnames
      | cons e' es' =>
          obtain ⟨n, v⟩ := e
          obtain ⟨n', v'⟩ := e'
          obtain ⟨hname, hrest⟩ := List.cons_eq_cons.mp hnames
          cases hname
          cases h with
          | cons hv h => exact rel_find?_cons hv (ih hrest h)

namespace Json.Reordered

variable {v w : Json}

theorem rel_refl (v? : Option Json) : Option.Rel Reordered v? v? := by
  cases v? with
  | none => exact .none
  | some v => exact .some (.refl v)

theorem rel_member? (hv : v.Distinct) (h : v.Reordered w) (name : String) :
    Option.Rel Reordered (v.member? name) (w.member? name) := by
  cases h with
  | refl => exact rel_refl _
  | array => exact .none
  | @object ms between ns hperm hnames hvalues =>
      cases hv with
      | object hnodup =>
          show Option.Rel Reordered (Entries.find? name ms) (Entries.find? name ns)
          rw [Entries.find?_of_perm hperm hnodup]
          exact Entries.rel_find? hnames hvalues name

theorem perm_names {ms ns : Entries Json} (h : (Json.object ms).Reordered (.object ns)) :
    (Entries.names ms).Perm (Entries.names ns) := by
  cases h with
  | refl => exact .refl _
  | object hperm hnames => exact hnames ▸ hperm.map Prod.fst

theorem text?_eq (h : v.Reordered w) : v.text? = w.text? := by
  cases h <;> rfl

theorem bind_text?_eq {v? w? : Option Json} (h : Option.Rel Reordered v? w?) :
    v?.bind text? = w?.bind text? := by
  cases h with
  | none => rfl
  | some h => exact h.text?_eq

/-- The same path leads to the same, but for the order of members. -/
theorem rel_descend (hv : v.Distinct) (h : v.Reordered w) (names : List String) :
    Option.Rel Reordered (Reference.descend v names) (Reference.descend w names) := by
  induction names generalizing v w with
  | nil => exact .some h
  | cons name names ih =>
      exact rel_bind (h.rel_member? hv name) fun _ _ hfound hmember =>
        ih (hv.of_member? hfound) hmember

theorem rel_get? (hv : v.Distinct) (h : v.Reordered w) (reference : Reference) :
    Option.Rel Reordered (reference.get? v) (reference.get? w) := by
  unfold Reference.get?
  cases reference.components with
  | nil => exact .none
  | cons name names => exact h.rel_descend hv (name :: names)

end Json.Reordered

/-! ## Contexts

Whatever is looked up in the two contexts is related: both have nothing there, or both have values
that differ in the order of members only. Texts that are related are the same. -/

namespace Context

structure SameUpToOrder (c d : Context) : Prop where
  left : c.Valid
  right : d.Valid
  distinct : c.toJson.Distinct
  reordered : c.toJson.Reordered d.toJson

namespace SameUpToOrder

variable {c d : Context}

theorem rel_member? (h : c.SameUpToOrder d) (name : String) :
    Option.Rel Json.Reordered (Entries.find? name c.members) (Entries.find? name d.members) :=
  h.reordered.rel_member? h.distinct name

theorem legacy_eq (h : c.SameUpToOrder d) : c.legacy = d.legacy := by
  have hkind := h.rel_member? "kind"
  rw [h.left.legacy_eq, h.right.legacy_eq]
  unfold isLegacy
  generalize Entries.find? "kind" c.members = kind at hkind ⊢
  generalize Entries.find? "kind" d.members = kind' at hkind ⊢
  cases hkind with
  | none => rfl
  | some hkind => cases hkind <;> rfl

theorem ownKind?_eq (h : c.SameUpToOrder d) : c.ownKind? = d.ownKind? :=
  Json.Reordered.bind_text?_eq (h.rel_member? "kind")

theorem rel_part? (h : c.SameUpToOrder d) (kind : String) :
    Option.Rel Json.Reordered (c.part? kind) (d.part? kind) := by
  unfold part?
  rw [h.legacy_eq, h.ownKind?_eq]
  split
  · split
    · exact .some h.reordered
    · exact .none
  · cases d.ownKind? with
    | none => exact .none
    | some own =>
        simp only [Option.bind_eq_bind, Option.bind_some]
        split
        · split
          · exact .none
          · exact h.rel_member? kind
        · split
          · exact .some h.reordered
          · exact .none

end SameUpToOrder

theorem key?_eq_bind (c : Context) (kind : String) :
    c.key? kind = ((c.part? kind).bind (Json.member? "key")).bind Json.text? :=
  (Option.bind_assoc _ _ _).symm

namespace SameUpToOrder

variable {c d : Context}

theorem distinct_part (h : c.SameUpToOrder d) {kind : String} {part : Json}
    (hpart : c.part? kind = some part) : part.Distinct :=
  distinct_of_part? h.distinct hpart

theorem key?_eq (h : c.SameUpToOrder d) (kind : String) : c.key? kind = d.key? kind := by
  have hkey : Option.Rel Json.Reordered ((c.part? kind).bind (Json.member? "key"))
      ((d.part? kind).bind (Json.member? "key")) :=
    rel_bind (h.rel_part? kind) fun _ _ hpart hrel => hrel.rel_member? (h.distinct_part hpart) "key"
  rw [key?_eq_bind, key?_eq_bind]
  exact Json.Reordered.bind_text?_eq hkey

theorem isNone_part?_eq (h : c.SameUpToOrder d) (kind : String) :
    (c.part? kind).isNone = (d.part? kind).isNone := by
  have hpart := h.rel_part? kind
  generalize c.part? kind = part at hpart ⊢
  generalize d.part? kind = part' at hpart ⊢
  cases hpart <;> rfl

theorem mem_kinds_iff (h : c.SameUpToOrder d) (kind : String) :
    kind ∈ c.kinds ↔ kind ∈ d.kinds := by
  rw [h.left.mem_kinds_iff_key?, h.right.mem_kinds_iff_key?, h.key?_eq]

theorem rel_fallback? (h : c.SameUpToOrder d) {part part' : Json} (hdistinct : part.Distinct)
    (hpart : part.Reordered part') (names : List String) :
    Option.Rel Json.Reordered (c.fallback? part names) (d.fallback? part' names) := by
  match names with
  | [] => exact .none
  | [name] =>
      unfold fallback?
      rw [h.legacy_eq]
      dsimp only
      by_cases hname : name = "anonymous"
      · rw [if_pos hname, if_pos hname]
        exact Json.Reordered.rel_refl _
      · rw [if_neg hname, if_neg hname]
        split
        · exact rel_bind (hpart.rel_member? hdistinct "custom") fun _ _ hcustom hrel =>
            hrel.rel_member? (hdistinct.of_member? hcustom) name
        · exact .none
  | _ :: _ :: _ => exact .none

theorem rel_value? (h : c.SameUpToOrder d) (kind : String) (reference : Reference) :
    Option.Rel Json.Reordered (c.value? kind reference) (d.value? kind reference) := by
  refine rel_bind (h.rel_part? kind) fun part part' hpart hrel => ?_
  have hdistinct := h.distinct_part hpart
  have hget := hrel.rel_get? hdistinct reference
  generalize reference.get? part = v? at hget ⊢
  generalize reference.get? part' = w? at hget ⊢
  cases hget with
  | none => exact h.rel_fallback? hdistinct hrel _
  | some hget => exact .some hget

/-! ### Canonical keys

The canonical key depends on the kinds and their keys alone. -/

theorem canonicalKey_eq (h : c.SameUpToOrder d) : c.canonicalKey = d.canonicalKey := by
  have hnames := h.distinct.nodup_names
  have hc : c.kinds.Nodup := nodup_kinds hnames
  have hd : d.kinds.Nodup := nodup_kinds (h.reordered.perm_names.nodup_iff.mp hnames)
  by_cases hkind : c.NamesOtherKind
  · have hkind' : d.NamesOtherKind := by
      unfold NamesOtherKind
      rw [← h.ownKind?_eq]
      exact hkind
    exact (canonicalKey_eq_iff_key? h.left h.right hc hd hkind hkind').mpr h.key?_eq
  · -- A user is identified by one key, and its kinds do not count.
    rw [canonicalKey, canonicalKey, h.left.canonicalKeyOf?_eq hc, h.right.canonicalKeyOf?_eq hd,
      ← h.ownKind?_eq]
    unfold identity?
    cases hown : c.ownKind? with
    | none => rw [h.key?_eq]
    | some own =>
        have hdefault : own = defaultKind := by
          by_cases hne : own = defaultKind
          · exact hne
          · exact absurd ⟨own, hown, hne⟩ hkind
        dsimp only
        rw [if_pos hdefault, if_pos hdefault, h.key?_eq]

end SameUpToOrder
end Context
end FeatureFlags
