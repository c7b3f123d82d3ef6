import FeatureFlags.Proofs.Context.Redaction
import FeatureFlags.Proofs.Evaluation.Progress

/-! # Private attributes stay private

What a private reference reads in a context cannot be read in the redacted context any more
(`redacted_hides_private`), so no event tells it. The references that are private for a kind come
from three places: the list for all contexts, the one in the part itself, and the names that a
legacy user lists (`privateFor`).

Two conditions are needed. The reference has to be a valid one, as it has to be in order to be read
by a clause or by a rollout: references that are not valid are not followed by redaction either. And
a legacy user keeps further attributes in its `custom` object, where a reference to a single name
reads them too; they are left out only if a private path leads there (`CustomIsPrivate`). -/

namespace FeatureFlags

theorem Reference.get?_eq_none {r : Reference} {v : Json} (h : descend v r.components = none) :
    r.get? v = none := by
  unfold get?
  cases hc : r.components with
  | nil => rfl
  | cons first rest =>
      rw [hc] at h
      exact h

namespace Context

variable {c : Context} {kind : String} {part : Json} {everywhere : List String} {r : Reference}

/-! ## Reading a redacted part

A redacted part is a copy without `_meta` and without the list of private names, so nothing can be
read in it that the copy does not have. -/

/-- The references that are private in the part of a kind. -/
def privateFor (c : Context) (kind : String) (everywhere : List String) : List Reference :=
  everywhere.map Reference.mk ++ c.privateAttributes kind

/-- A path ends at or above the names at or below the end of a private path. -/
theorem removes_redactions {names : List String} (hr : r ∈ c.privateFor kind everywhere)
    (hvalid : r.isValid = true) (hprotected : isProtected r.components = false)
    (hbegins : r.components <+: names) :
    Exclusion.Removes (Exclusion.pathsOf (c.redactions kind part everywhere false)) names := by
  have hmem : r ∈ c.redactions kind part everywhere false :=
    List.mem_filter.mpr ⟨hr, by rw [hprotected]; rfl⟩
  have hne : r.components ≠ [] := by
    intro hnil
    rw [hnil] at hprotected
    cases hprotected
  exact Exclusion.removes_pathsOf.mpr ⟨r, hmem, hvalid, hne, hbegins⟩

/-- Names at or below the end of a private path lead nowhere in the redacted part. -/
theorem descend_redactPart_of_private {names : List String} (hr : r ∈ c.privateFor kind everywhere)
    (hvalid : r.isValid = true) (hprotected : isProtected r.components = false)
    (hbegins : r.components <+: names) :
    Reference.descend (c.redactPart kind part everywhere false) names = none := by
  cases hcomponents : r.components with
  | nil =>
      rw [hcomponents] at hprotected
      cases hprotected
  | cons first rest =>
      have hremoves : Exclusion.Removes
          (Exclusion.pathsOf (c.redactions kind part everywhere false)) names :=
        removes_redactions hr hvalid hprotected hbegins
      rw [hcomponents] at hprotected hbegins
      obtain ⟨-, -, hmeta⟩ := isProtected_cons_eq_false hprotected
      obtain ⟨names', rfl⟩ := hbegins
      have hcopy : Reference.descend
          (Exclusion.copy part (c.redactions kind part everywhere false)) (first :: rest ++ names')
            = none :=
        Exclusion.descend_prune_of_removes hremoves
      rw [List.cons_append, Reference.descend] at hcopy ⊢
      rw [member?_redactPart hmeta]
      split
      · rfl
      · exact hcopy

/-- What cannot be read in a part cannot be read in the redacted part. -/
theorem descend_redactPart_eq_none {first : String} {rest : List String} (hmeta : first ≠ "_meta")
    (h : Reference.descend part (first :: rest) = none) :
    Reference.descend (c.redactPart kind part everywhere false) (first :: rest) = none := by
  have hcopy : Reference.descend
      (Exclusion.copy part (c.redactions kind part everywhere false)) (first :: rest) = none :=
    Exclusion.descend_prune_eq_none h
  rw [Reference.descend] at hcopy ⊢
  rw [member?_redactPart hmeta]
  split
  · rfl
  · exact hcopy

/-! ## Reading a redacted context

Reading an attribute of a context goes to the part first, and falls back to `anonymous`, which has a
default, and to the further attributes of a legacy user. -/

/-- Where a legacy user has a further attribute of the name that the reference addresses, a private
path leads to it. -/
def CustomIsPrivate (c : Context) (kind : String) (everywhere : List String) (r : Reference) :
    Prop :=
  ∀ name, r.components = [name] → Reference.descend c.toJson ["custom", name] = none ∨
    ∃ s ∈ c.privateFor kind everywhere, s.isValid = true ∧ s.components ≠ [] ∧
      s.components <+: ["custom", name]

theorem isProtected_of_prefix_custom {names : List String} {name : String} (hne : names ≠ [])
    (h : names <+: ["custom", name]) : isProtected names = false := by
  cases names with
  | nil => exact absurd rfl hne
  | cons first rest =>
      obtain ⟨rfl, -⟩ := List.cons_prefix_cons.mp h
      cases rest <;> rfl

theorem part?_of_legacy (h : c.legacy = true) (hpart : c.part? kind = some part) :
    part = c.toJson := by
  unfold part? at hpart
  rw [if_pos h] at hpart
  split at hpart
  · exact (Option.some.inj hpart).symm
  · cases hpart

/-- The further attributes of a legacy user are the only ones besides `anonymous` that are read
elsewhere than where the reference says. -/
theorem fallback?_eq_none (hprotected : isProtected r.components = false)
    (hcustom : c.legacy = true → ∀ name, r.components = [name] →
      Reference.descend part ["custom", name] = none) :
    c.fallback? part r.components = none := by
  unfold fallback?
  split
  · next name hname =>
    have hanonymous : name ≠ "anonymous" := by
      rintro rfl
      rw [hname] at hprotected
      cases hprotected
    rw [if_neg hanonymous]
    split
    · next hlegacy =>
      have h := hcustom hlegacy name hname
      rw [Reference.descend] at h
      -- No `custom` object, or one without the name: in both cases nothing is read.
      cases hobject : part.member? "custom" with
      | none => rfl
      | some custom =>
          rw [hobject] at h
          show custom.member? name = none
          cases hfound : custom.member? name with
          | none => rfl
          | some v =>
              have hread : Reference.descend custom [name] = some v := by
                rw [Reference.descend, hfound]
                rfl
              exact absurd (hread.symm.trans h) (Option.some_ne_none v)
    · rfl
  · rfl

/-- In a context that is a redaction of another one, a private reference reads nothing. -/
theorem IsRedactionOf.value?_private {c' : Context} (h : c'.IsRedactionOf c everywhere false)
    (hkind : kind ∈ c.kinds) (hr : r ∈ c.privateFor kind everywhere) (hvalid : r.isValid = true)
    (hprotected : r.components ≠ [] → isProtected r.components = false)
    (hcustom : c.legacy = true → c.CustomIsPrivate kind everywhere r) :
    c'.value? kind r = none := by
  obtain ⟨part, hpart, hpart'⟩ := h.part? kind hkind
  by_cases hroot : r.components = []
  · unfold value? Reference.get?
    rw [hpart', hroot]
    rfl
  -- The reference is read in two places: where it says, and among the further attributes.
  replace hprotected := hprotected hroot
  have hread : r.get? (c.redactPart kind part everywhere false) = none :=
    Reference.get?_eq_none (descend_redactPart_of_private hr hvalid hprotected (List.prefix_refl _))
  have hfallback : c'.fallback? (c.redactPart kind part everywhere false) r.components = none := by
    refine fallback?_eq_none hprotected fun hlegacy name hname => ?_
    rw [h.legacy] at hlegacy
    obtain hnothing | ⟨s, hs, hsvalid, hne, hbegins⟩ := hcustom hlegacy name hname
    · rw [← part?_of_legacy hlegacy hpart] at hnothing
      exact descend_redactPart_eq_none (by decide) hnothing
    · exact descend_redactPart_of_private hs hsvalid (isProtected_of_prefix_custom hne hbegins)
        hbegins
  unfold value?
  rw [hpart', Option.bind_eq_bind, Option.bind_some, hread]
  exact hfallback

/-- **Private attributes stay private.** Take a context, a kind of it and a reference that is
private there, by a list for all contexts or by the context itself. If the reference is valid and
not protected, and if no further attribute of a legacy user is exposed under its name, then it reads
nothing in the redacted context, which is a context again. And whatever an evaluation of the context
reports, with these attributes private, carries that redacted context. -/
theorem redacted_hides_private (v : Json) (c : Context) (hc : ofJson v = .ok c)
    (everywhere : List String) (kind : String) (hkind : kind ∈ c.kinds) (r : Reference)
    (hr : r ∈ c.privateFor kind everywhere) (hvalid : r.isValid = true)
    (hprotected : r.components ≠ [] → isProtected r.components = false)
    (hcustom : c.legacy = true → c.CustomIsPrivate kind everywhere r) :
    (∃ c', ofJson (c.redacted everywhere false) = .ok c' ∧ c'.value? kind r = none) ∧
      ∀ (source : Source) (policy : EventPolicy) (f : Option Flag),
        policy.privateAttributes = everywhere → policy.allAttributesPrivate = false →
        ∀ e ∈ (source.environment.evaluateFor policy f c).events,
          e.context = c.redacted everywhere false := by
  constructor
  · obtain ⟨c', hjson, hvalid', hredaction⟩ := (valid_of_ofJson hc).redacted everywhere false
    refine ⟨c', ?_, hredaction.value?_private hkind hr hvalid hprotected hcustom⟩
    rw [hjson]
    exact hvalid'.ofJson_toJson
  · rintro source policy f rfl hall e he
    obtain ⟨g, d, f, rfl⟩ := Environment.mem_events_evaluateFor he
    show c.redacted policy.privateAttributes policy.allAttributesPrivate = _
    rw [hall]

/-- A user who keeps a part of the address private. -/
theorem redacted_hides_private_nested :
    let v : Json := .object [("kind", .string "user"), ("key", .string "u"),
      ("address", .object [("city", .string "Bonn"), ("country", .string "DE")]),
      ("_meta", .object [("privateAttributes", .array [.string "/address/city"])])]
    let r : Reference := ⟨"/address/city"⟩
    ∃ c, ofJson v = .ok c ∧ (c.value? "user" r).bind Json.text? = some "Bonn" ∧
      ∃ c', ofJson (c.redacted ["name"] false) = .ok c' ∧ c'.value? "user" r = none := by
  intro v r
  have hc : ofJson v = .ok ⟨v.members?.getD [], false⟩ := rfl
  have hkind : "user" ∈ kinds ⟨v.members?.getD [], false⟩ := by decide +kernel
  have hprivate : r ∈ privateFor ⟨v.members?.getD [], false⟩ "user" ["name"] := by decide +kernel
  refine ⟨_, hc, by decide +kernel, ?_⟩
  exact (redacted_hides_private v _ hc ["name"] "user" hkind r hprivate (by decide +kernel)
    (fun _ => by decide +kernel) nofun).1

/-- Two attributes that are private and all the same are read in the redacted context: one whose
reference is not valid, and one that a legacy user keeps in its `custom` object. -/
theorem redacted_exposes :
    (∃ c, ofJson (.object [("kind", .string "user"), ("key", .string "u"),
        ("t~", .string "secret")]) = .ok c ∧
      "user" ∈ c.kinds ∧ ⟨"t~"⟩ ∈ c.privateFor "user" ["t~"] ∧
      isProtected (Reference.mk "t~").components = false ∧
      ((ofJson (c.redacted ["t~"] false)).toOption.bind
        fun c' => (c'.value? "user" ⟨"t~"⟩).bind Json.text?) = some "secret") ∧
    (∃ c, ofJson (.object [("key", .string "u"),
        ("custom", .object [("email", .string "x")])]) = .ok c ∧
      "user" ∈ c.kinds ∧ ⟨"email"⟩ ∈ c.privateFor "user" ["email"] ∧
      isProtected (Reference.mk "email").components = false ∧
      ((ofJson (c.redacted ["email"] false)).toOption.bind
        fun c' => (c'.value? "user" ⟨"email"⟩).bind Json.text?) = some "x") := by
  constructor
  · refine ⟨⟨[("kind", .string "user"), ("key", .string "u"), ("t~", .string "secret")], false⟩,
      rfl, ?_⟩
    decide +kernel
  · refine ⟨⟨[("key", .string "u"), ("custom", .object [("email", .string "x")])], true⟩, rfl, ?_⟩
    decide +kernel

end Context
end FeatureFlags
