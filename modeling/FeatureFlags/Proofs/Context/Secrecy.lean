import FeatureFlags.Proofs.Attribute.Hiding
import FeatureFlags.Proofs.Context.Privacy

/-! # Redaction does not tell private values

Two contexts may be the same except for what stands under some names in one of their parts
(`SameExceptAt`). If that is private, they are redacted to the same value
(`redacted_of_sameExceptAt`), the list of redacted attributes included: other private references
that lead above, below or beside these names take away the same from both.

Names are given from the part, as references are. In the whole context they begin with the kind of
the part if the context holds several (`location`). Members that identify a context or describe what
is private in it are no place for a private value: the kind, the key, `anonymous` and the two lists
of private names. -/

namespace FeatureFlags
namespace Context

variable {c c' : Context} {kind : String} {first : String} {rest : List String}
  {everywhere : List String} {r : Reference}

/-! ## Contexts that differ in one place

The values of the two contexts differ in one place, and so do their parts: the one in which the
place is differs there, and the others are the same. -/

def location (c : Context) (kind : String) (names : List String) : List String :=
  if c.isMulti then kind :: names else names

structure SameExceptAt (c c' : Context) (kind : String) (names : List String) : Prop where
  legacy : c.legacy = c'.legacy
  ownKind? : c.ownKind? = c'.ownKind?
  kinds : c.kinds = c'.kinds
  part?_of_ne : ∀ other, other ≠ kind → c.part? other = c'.part? other
  part? : ∃ part part', c.part? kind = some part ∧ c'.part? kind = some part' ∧
    part.SameExceptAt names part'

/-- Whatever does not lead to the kind of the context keeps its form. -/
theorem form_of_sameExceptAt (hvalid : c.Valid) (hvalid' : c'.Valid) (hfirst : first ≠ "kind")
    (h : c.toJson.SameExceptAt (first :: rest) c'.toJson) :
    c.legacy = c'.legacy ∧ c.ownKind? = c'.ownKind? ∧ c.kinds = c'.kinds := by
  have hown : Entries.find? "kind" c.members = Entries.find? "kind" c'.members :=
    h.member?_of_ne hfirst.symm
  have hnames : c.members.names = c'.members.names := h.names_eq
  refine ⟨?_, ?_, ?_⟩
  · rw [hvalid.legacy_eq, hvalid'.legacy_eq, isLegacy, isLegacy, hown]
  · rw [Context.ownKind?, Context.ownKind?, hown]
  · rw [Context.kinds, Context.kinds, toJson, toJson, kindsOf, kindsOf, hown, hnames]

/-- Contexts that are the same as values, except for a place in the part of one kind. -/
theorem sameExceptAt_of_toJson (hvalid : c.Valid) (hvalid' : c'.Valid) (hkind : kind ∈ c.kinds)
    (hfirst : first ≠ "kind")
    (h : c.toJson.SameExceptAt (c.location kind (first :: rest)) c'.toJson) :
    c.SameExceptAt c' kind (first :: rest) := by
  unfold location at h
  cases hmulti : c.isMulti with
  | false =>
      rw [hmulti, if_neg Bool.false_ne_true] at h
      obtain ⟨hlegacy, hown, hkinds⟩ := form_of_sameExceptAt hvalid hvalid' hfirst h
      have hpart := hvalid.part?_of_not_multi hmulti
      have hpart' := hvalid'.part?_of_not_multi ((isMulti_congr hown).symm.trans hmulti)
      rw [← hkinds] at hpart'
      -- It has no other kind than the one in question.
      have hother : ∀ other, other ≠ kind → other ∉ c.kinds := by
        intro other hne hmem
        rw [hvalid.kinds_of_not_multi hmulti] at hkind hmem
        exact hne ((List.mem_singleton.mp hmem).trans (List.mem_singleton.mp hkind).symm)
      refine ⟨hlegacy, hown, hkinds, fun other hne => ?_, c.toJson, c'.toJson, ?_, ?_, h⟩
      · rw [hpart, hpart', if_neg (hother other hne), if_neg (hother other hne)]
      · rw [hpart, if_pos hkind]
      · rw [hpart', if_pos hkind]
  | true =>
      rw [hmulti, if_pos rfl] at h
      obtain ⟨hlegacy, hown, hkinds⟩ :=
        form_of_sameExceptAt hvalid hvalid' (hvalid.ne_kind_of_mem_kinds hkind) h
      have hpart := hvalid.part?_of_multi hmulti
      have hpart' := hvalid'.part?_of_multi ((isMulti_congr hown).symm.trans hmulti)
      rw [← hkinds] at hpart'
      obtain ⟨part, part', hthere, hthere', hsame⟩ := h.member?
      refine ⟨hlegacy, hown, hkinds, fun other hne => ?_, part, part', ?_, ?_, hsame⟩
      · rw [hpart, hpart']
        split
        · exact h.member?_of_ne hne
        · rfl
      · rw [hpart, if_pos hkind]
        exact hthere
      · rw [hpart', if_pos hkind]
        exact hthere'

/-! ## The same redaction

What is private is the same for both contexts, since it is not said in the place where they differ.
So the same references are left out of parts that differ where one of these references leads. -/

/-- What a context itself marks private does not stand under the names. -/
theorem SameExceptAt.privateFor (h : c.SameExceptAt c' kind (first :: rest))
    (hmeta : first ≠ "_meta") (hlisted : first ≠ "privateAttributeNames") (other : String) :
    c.privateFor other everywhere = c'.privateFor other everywhere := by
  unfold Context.privateFor privateAttributes
  by_cases hother : other = kind
  · subst hother
    obtain ⟨part, part', hpart, hpart', hsame⟩ := h.part?
    rw [hpart, hpart', h.legacy]
    dsimp only
    rw [ownPrivate, ownPrivate, hsame.member?_of_ne hmeta.symm, hsame.member?_of_ne hlisted.symm]
  · rw [h.part?_of_ne other hother, h.legacy]

/-- The parts of each kind are redacted to the same value. -/
theorem SameExceptAt.map_redactPart (h : c.SameExceptAt c' kind (first :: rest))
    (hmeta : first ≠ "_meta") (hlisted : first ≠ "privateAttributeNames")
    (hr : r ∈ c.privateFor kind everywhere) (hvalid : r.isValid = true)
    (hcomponents : r.components = first :: rest) (hprotected : isProtected (first :: rest) = false)
    (other : String) :
    (c.part? other).map (c.redactPart other · everywhere false)
      = (c'.part? other).map (c'.redactPart other · everywhere false) := by
  have hrefs : ∀ part part', c.redactions other part everywhere false
      = c'.redactions other part' everywhere false := fun part part' =>
    congrArg (List.filter fun r : Reference => !isProtected r.components)
      (h.privateFor hmeta hlisted other)
  by_cases hother : other = kind
  · subst hother
    obtain ⟨part, part', hpart, hpart', hsame⟩ := h.part?
    have hremoves : Exclusion.Removes
        (Exclusion.pathsOf (c.redactions other part everywhere false)) (first :: rest) :=
      removes_redactions hr hvalid (hcomponents ▸ hprotected) (hcomponents ▸ List.prefix_refl _)
    rw [hpart, hpart', Option.map_some, Option.map_some, redactPart, redactPart, ← hrefs part part',
      Exclusion.copy_eq hsame hremoves, Exclusion.excluded_eq hsame hremoves]
  · rw [h.part?_of_ne other hother]
    refine Option.map_congr fun part _ => ?_
    rw [redactPart, redactPart, hrefs part part]

theorem SameExceptAt.redacted (h : c.SameExceptAt c' kind (first :: rest)) (hc : c.Valid)
    (hc' : c'.Valid)
    (hparts : ∀ other, (c.part? other).map (c.redactPart other · everywhere false)
      = (c'.part? other).map (c'.redactPart other · everywhere false)) :
    c.redacted everywhere false = c'.redacted everywhere false := by
  unfold Context.redacted
  have hmulti' : c.isMulti = c'.isMulti := isMulti_congr h.ownKind?
  rw [← hmulti', ← h.ownKind?, ← h.kinds]
  cases hmulti : c.isMulti with
  | true =>
      rw [if_pos rfl, if_pos rfl]
      congr 2
      refine List.filterMap_congr fun other _ => ?_
      have hsame := congrArg (Option.map (Prod.mk other)) (hparts other)
      rwa [Option.map_map, Option.map_map] at hsame
  | false =>
      rw [if_neg Bool.false_ne_true, if_neg Bool.false_ne_true]
      -- The context is its only part.
      have hsame := hparts ((c.ownKind?).getD defaultKind)
      rw [hc.part?_own hmulti, h.ownKind?, hc'.part?_own (hmulti'.symm.trans hmulti)] at hsame
      rw [h.ownKind?]
      exact Option.some.inj hsame

theorem isProtected_cons {names : List String} (hnames : names = first :: rest)
    (hfirst : first ∉ ["kind", "key", "_meta", "privateAttributeNames"])
    (hanonymous : names ≠ ["anonymous"]) : isProtected names = false := by
  subst hnames
  cases rest <;> simp_all [isProtected]

/-- **Redaction does not depend on private values.** Take two contexts that are the same except for
what stands under some names in the part of a kind, where both have something. If a valid reference
to these names is private for the kind, and the names neither begin with a member that identifies or
describes a context nor are those of `anonymous`, then the contexts are redacted to the same value,
and with it the same attributes are listed as redacted. So an event is the same whichever of them it
is made from, and whatever evaluations of them report carries the same context. -/
theorem redacted_of_sameExceptAt (v v' : Json) (c c' : Context) (hc : ofJson v = .ok c)
    (hc' : ofJson v' = .ok c') (everywhere : List String) (kind : String) (hkind : kind ∈ c.kinds)
    (r : Reference) (hr : r ∈ c.privateFor kind everywhere) (hvalid : r.isValid = true)
    (first : String) (rest : List String) (hcomponents : r.components = first :: rest)
    (hfirst : first ∉ ["kind", "key", "_meta", "privateAttributeNames"])
    (hanonymous : r.components ≠ ["anonymous"])
    (hsame : c.toJson.SameExceptAt (c.location kind r.components) c'.toJson) :
    c.redacted everywhere false = c'.redacted everywhere false ∧
      ∀ policy : EventPolicy, policy.privateAttributes = everywhere →
        policy.allAttributesPrivate = false →
        (∀ f d default prerequisiteOf, policy.event f c d default prerequisiteOf
          = policy.event f c' d default prerequisiteOf) ∧
        ∀ (source source' : Source) (f f' : Option Flag),
          ∀ e ∈ (source.environment.evaluateFor policy f c).events,
          ∀ e' ∈ (source'.environment.evaluateFor policy f' c').events, e.context = e'.context := by
  have hform : c.Valid := valid_of_ofJson hc
  have hform' : c'.Valid := valid_of_ofJson hc'
  have hprotected : isProtected r.components = false :=
    isProtected_cons hcomponents hfirst hanonymous
  rw [hcomponents] at hsame
  simp only [List.mem_cons, List.not_mem_nil, or_false, not_or] at hfirst
  obtain ⟨hownKind, -, hmeta, hlisted⟩ := hfirst
  have h : c.SameExceptAt c' kind (first :: rest) :=
    sameExceptAt_of_toJson hform hform' hkind hownKind hsame
  -- Events carry the redacted value and nothing else of the context, so it decides about them too.
  have hredacted : c.redacted everywhere false = c'.redacted everywhere false :=
    h.redacted hform hform'
      (h.map_redactPart hmeta hlisted hr hvalid hcomponents (hcomponents ▸ hprotected))
  refine ⟨hredacted, ?_⟩
  rintro policy rfl hall
  have hcontext : c.redacted policy.privateAttributes policy.allAttributesPrivate
      = c'.redacted policy.privateAttributes policy.allAttributesPrivate := by
    rw [hall]
    exact hredacted
  constructor
  · intro f d default prerequisiteOf
    unfold EventPolicy.event
    rw [hcontext]
  · intro source source' f f' e he e' he'
    obtain ⟨_, _, _, rfl⟩ := Environment.mem_events_evaluateFor he
    obtain ⟨_, _, _, rfl⟩ := Environment.mem_events_evaluateFor he'
    exact hcontext

/-- A city that a user keeps private is a text in one context and an object in the other. A
reference that is private everywhere leads into the object. -/
theorem redacted_of_sameExceptAt_nested :
    let v (city : Json) : Json := .object [("kind", .string "multi"),
      ("user", .object [("key", .string "u"),
        ("address", .object [("country", .string "DE"), ("city", city)]),
        ("_meta", .object [("privateAttributes", .array [.string "/address/city"])])]),
      ("org", .object [("key", .string "o")])]
    ∃ c c', ofJson (v (.string "Bonn")) = .ok c ∧
      ofJson (v (.object [("zip", .string "53111")])) = .ok c' ∧
      c.redacted ["/address/city/zip"] false = c'.redacted ["/address/city/zip"] false := by
  intro v
  let c (city : Json) : Context := ⟨(v city).members?.getD [], false⟩
  have hc (city : Json) : ofJson (v city) = .ok (c city) := rfl
  have hcity (x y : Json) : Json.SameExceptAt ["user", "address", "city"] (v x) (v y) := by
    refine @Json.SameExceptAt.inside "user" _ _ _ [("kind", .string "multi")] _ (by decide) ?_
    refine @Json.SameExceptAt.inside "address" _ _ _ [("key", .string "u")] _ (by decide) ?_
    refine @Json.SameExceptAt.inside "city" _ _ _ [("country", .string "DE")] _ (by decide) ?_
    exact .here x y
  refine ⟨c _, c _, hc _, hc _, ?_⟩
  exact (redacted_of_sameExceptAt _ _ _ _ (hc _) (hc _) _ "user" (by decide) ⟨"/address/city"⟩
    (by decide +kernel) (by decide +kernel) "address" ["city"] (by decide +kernel) (by decide)
    (by decide +kernel) (hcity _ _)).1

end Context
end FeatureFlags
