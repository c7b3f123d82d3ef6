import FeatureFlags.Proofs.Context.Redaction
import FeatureFlags.Proofs.Evaluation.Footprint
import FeatureFlags.Proofs.Evaluation.Graph

/-! # Legacy users and explicit ones

A legacy user without a `custom` object and the context that names its kind, `user`, are the same to
an evaluation: all they differ in is the attribute `kind` (`Context.SpellsOut`). A clause about this
attribute tests the kinds of the context instead, which are the same for both.

What is left are rollouts that bucket by the kind; without them (`Source.NeverBucketsByKind`), both
are evaluated alike (`evaluateValue_legacy`). A legacy user may have an empty key, which no other
context may have, so the key has to be some text for both to be contexts at all. -/

namespace FeatureFlags

/-! ## The user with its kind

Wherever the kind is put among the members, all other members are found as before. A reference that
begins with the kind and goes on finds nothing, in a text as in no value. -/

/-- The objects are the same, but where the first has no kind, the second is a user. The first has
no `custom` object either. -/
structure Context.SpellsOut (members explicit : Entries Json) : Prop where
  noKind : Entries.find? "kind" members = none
  noCustom : Entries.find? "custom" members = none
  kind : Entries.find? "kind" explicit = some (.string Context.defaultKind)
  others : ∀ name, name ≠ "kind" → Entries.find? name explicit = Entries.find? name members

/-- A legacy context is the user. -/
theorem Context.part?_legacy (members : Entries Json) (kind : String) :
    part? ⟨members, true⟩ kind = if kind = defaultKind then some (.object members) else none :=
  rfl

namespace Context.SpellsOut

variable {members explicit : Entries Json} (h : SpellsOut members explicit)

include h

theorem isLegacy : Context.isLegacy members = true := by
  unfold Context.isLegacy
  rw [h.noKind]
  rfl

theorem part?_explicit (kind : String) :
    part? ⟨explicit, false⟩ kind = if kind = defaultKind then some (.object explicit) else none :=
  part?_of_single h.kind (by decide) kind

theorem key? (kind : String) : key? ⟨members, true⟩ kind = key? ⟨explicit, false⟩ kind := by
  unfold Context.key?
  rw [part?_legacy, h.part?_explicit]
  split
  · show (Entries.find? "key" members).bind Json.text?
      = (Entries.find? "key" explicit).bind Json.text?
    rw [h.others "key" (by decide)]
  · rfl

/-- Apart from the kind itself, the same is found along every path: below the kind, which is a text,
there is nothing. -/
theorem get?_eq {reference : Reference} (hkind : reference.isKind = false) :
    reference.get? (.object members) = reference.get? (.object explicit) := by
  unfold Reference.isKind at hkind
  unfold Reference.get?
  cases hnames : reference.components with
  | nil => rfl
  | cons name names =>
      show (Entries.find? name members).bind _ = (Entries.find? name explicit).bind _
      by_cases hname : name = "kind"
      · subst hname
        rw [h.noKind, h.kind]
        cases names with
        | nil =>
            rw [hnames] at hkind
            cases hkind
        | cons next names => rfl
      · rw [h.others name hname]

theorem fallback?_eq (names : List String) :
    fallback? ⟨members, true⟩ (.object members) names
      = fallback? ⟨explicit, false⟩ (.object explicit) names := by
  match names with
  | [] => rfl
  | [name] =>
      show (if name = "anonymous" then _ else (Entries.find? "custom" members).bind _)
        = if name = "anonymous" then _ else _
      rw [h.noCustom]
      rfl
  | _ :: _ :: _ => rfl

theorem value?_eq {reference : Reference} (hkind : reference.isKind = false) (kind : String) :
    value? ⟨members, true⟩ kind reference = value? ⟨explicit, false⟩ kind reference := by
  unfold value?
  rw [part?_legacy, h.part?_explicit]
  split
  · rw [Option.bind_eq_bind, Option.bind_some, Option.bind_some, h.get?_eq hkind, h.fallback?_eq]
  · rfl

/-- Both contexts agree on everything but the kind as an attribute. -/
theorem agreesOn {r : ContextRead}
    (hr : ∀ kind reference, r = .value kind reference → reference.isKind = false) :
    AgreesOn ⟨members, true⟩ ⟨explicit, false⟩ r := by
  cases r with
  | kinds =>
      intro kind
      rw [kinds_of_isLegacy h.isLegacy, kinds_of_find? h.kind, if_neg (by decide)]
  | key kind => exact h.key? kind
  | value kind reference =>
      refine ⟨?_, h.value?_eq (hr kind reference rfl) kind⟩
      rw [part?_legacy, h.part?_explicit]
      split <;> rfl

end Context.SpellsOut

/-! ## Whole evaluations

The two contexts agree on all that an evaluation reads, as long as nothing reads the kind as an
attribute. -/

/-- No rollout of the flag or of anything stored buckets by the kind. -/
def Source.NeverBucketsByKind (source : Source) (f : Flag) : Prop :=
  ∀ reference ∈ source.bucketReferences f, reference.isKind = false

instance (source : Source) (f : Flag) : Decidable (source.NeverBucketsByKind f) :=
  inferInstanceAs (Decidable (∀ reference ∈ _, _))

namespace Environment

theorem evaluateFor_of_spellsOut {source : Source} {policy : EventPolicy} {f : Flag}
    {members explicit : Entries Json} (h : Context.SpellsOut members explicit)
    (hnever : source.NeverBucketsByKind f) :
    (source.environment.evaluateFor policy (some f) ⟨members, true⟩).SameButEvents
      (source.environment.evaluateFor policy (some f) ⟨explicit, false⟩) := by
  refine evaluateFor_of_agreesWithin policy fun r hr => h.agreesOn ?_
  rintro kind reference rfl
  refine Bool.eq_false_iff.mpr fun hkind => ?_
  rw [hnever reference (hr.2 hkind)] at hkind
  cases hkind

/-- **A legacy user is evaluated like the explicit one.** An object with a key that is a text, but
without a kind and a `custom` object, is evaluated to the same detail and error as the object that
says, at any place, that it is a user, and by the same questions; provided that no rollout buckets
by the kind. -/
theorem evaluateValue_legacy (source : Source) (policy : EventPolicy) (f : Flag)
    (before after : Entries Json) {key : String}
    (hkey : Entries.find? "key" (before ++ after) = some (.string key)) (hne : key ≠ "")
    (hkind : "kind" ∉ Entries.names (before ++ after))
    (hcustom : "custom" ∉ Entries.names (before ++ after))
    (hnever : source.NeverBucketsByKind f) :
    (source.environment.evaluateValue policy (some f) (.object (before ++ after))).SameButEvents
      (source.environment.evaluateValue policy (some f)
        (.object (before ++ ("kind", .string Context.defaultKind) :: after))) := by
  have hnone : Entries.find? "kind" (before ++ after) = none := Entries.find?_eq_none_iff.mpr hkind
  have hspells : Context.SpellsOut (before ++ after)
      (before ++ ("kind", .string Context.defaultKind) :: after) :=
    { noKind := hnone
      noCustom := Entries.find?_eq_none_iff.mpr hcustom
      kind := by
        rw [Entries.find?_append, Option.or_eq_none_iff] at hnone
        rw [Entries.find?_append, hnone.1, Entries.find?_cons, if_pos rfl, Option.none_or]
      others := by
        intro name hname
        rw [Entries.find?_append, Entries.find?_append, Entries.find?_cons, if_neg hname.symm] }
  have hlegacy : Context.Valid ⟨before ++ after, true⟩ := .legacy hspells.isLegacy hkey
  have hexplicit :
      Context.Valid ⟨before ++ ("kind", .string Context.defaultKind) :: after, false⟩ := by
    refine .single hspells.kind (by decide) (by decide) ?_
    rw [hspells.others "key" (by decide), hkey]
    exact bne_iff_ne.mpr hne
  have himplicit :
      source.environment.evaluateValue policy (some f) (.object (before ++ after)) = _ :=
    evaluateValue_toJson hlegacy
  have hspelled : source.environment.evaluateValue policy (some f)
      (.object (before ++ ("kind", .string Context.defaultKind) :: after)) = _ :=
    evaluateValue_toJson hexplicit
  rw [himplicit, hspelled]
  exact evaluateFor_of_spellsOut hspells hnever

/-- A rule for users and a rollout by the mail address, in a segment too, do not tell the user from
the explicit one. -/
theorem evaluateValue_legacy_rollout :
    let users : Clause := ⟨none, some ⟨"kind"⟩, .isIn, [.string "user"], false⟩
    let listed : Clause := ⟨none, none, .segmentMatch, [.string "s"], false⟩
    let rollout : Rollout := ⟨.rollout, none, some ⟨"/email"⟩, none, [⟨0, 100000, false⟩]⟩
    let f : Flag := { Flag.named "f" [] with
      rules := [⟨none, [users, listed], ⟨none, some rollout⟩, false⟩] }
    let s : Segment := ⟨"s", 1, "", [], [], [], [], [⟨none, [users], some 100000, some ⟨"email"⟩,
      none⟩], false, none, none⟩
    let source : Source := ⟨⟨[("f", f)], [("s", s)]⟩, fun _ => none⟩
    let before : Entries Json := [("key", .string "u")]
    let after : Entries Json := [("email", .string "u@example.org"), ("anonymous", .bool true)]
    Entries.find? "key" (before ++ after) = some (.string "u") ∧
      "kind" ∉ Entries.names (before ++ after) ∧ "custom" ∉ Entries.names (before ++ after) ∧
      source.NeverBucketsByKind f ∧
      (source.environment.evaluateValue default (some f) (.object (before ++ after))).SameButEvents
        (source.environment.evaluateValue default (some f)
          (.object (before ++ ("kind", .string Context.defaultKind) :: after))) := by
  intro users listed rollout f s source before after
  have hkey : Entries.find? "key" (before ++ after) = some (.string "u") := rfl
  have hkind : "kind" ∉ Entries.names (before ++ after) := by decide
  have hcustom : "custom" ∉ Entries.names (before ++ after) := by decide
  have hnever : source.NeverBucketsByKind f := by decide
  exact ⟨hkey, hkind, hcustom, hnever, evaluateValue_legacy source default f before after hkey
    (by decide) hkind hcustom hnever⟩

end Environment
end FeatureFlags
