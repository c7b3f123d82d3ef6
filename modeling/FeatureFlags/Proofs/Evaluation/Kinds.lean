import FeatureFlags.Proofs.Context.Parts
import FeatureFlags.Proofs.Evaluation.Footprint
import FeatureFlags.Proofs.Evaluation.Graph

/-! # Kinds that an evaluation can see

An evaluation sees of a context the parts of the kinds that the flag and the stored data use, and
the list of its kinds if a clause tests them. So it cannot tell contexts apart that agree there,
whatever parts of other kinds they have and whether a single context stands by itself
(`evaluateFor_isolates`).

Whether the kinds themselves are seen depends on the clauses: without one that tests the kind
(`Source.NeverTestsKind`) they may differ. Legacy users are left out, as one of them and a part of
the same members are read differently. The events of an evaluation hold the context, so they
differ. -/

namespace FeatureFlags

/-- No clause of the flag or of anything stored tests the kind. -/
def Source.NeverTestsKind (source : Source) (f : Flag) : Prop :=
  ∀ clause ∈ source.clauses f, clause.testsKind = false

instance (source : Source) (f : Flag) : Decidable (source.NeverTestsKind f) :=
  inferInstanceAs (Decidable (∀ clause ∈ _, _))

/-- The value of an attribute depends on the part, and on whether the context is a legacy user. -/
theorem Context.value?_congr {c₁ c₂ : Context} {kind : String} (hlegacy : c₁.legacy = c₂.legacy)
    (hpart : c₁.part? kind = c₂.part? kind) (reference : Reference) :
    c₁.value? kind reference = c₂.value? kind reference := by
  have hfallback : c₁.fallback? = c₂.fallback? := by
    funext part names
    unfold fallback?
    rw [hlegacy]
  unfold value?
  rw [hpart, hfallback]

namespace Environment

theorem evaluateFor_of_parts {source : Source} {policy : EventPolicy} {f : Flag} {c₁ c₂ : Context}
    (hlegacy : c₁.legacy = c₂.legacy)
    (hparts : ∀ kind ∈ source.usedKinds f, c₁.part? kind = c₂.part? kind)
    (hkinds : source.NeverTestsKind f ∨ ∀ kind, kind ∈ c₁.kinds ↔ kind ∈ c₂.kinds) :
    (source.environment.evaluateFor policy (some f) c₁).SameButEvents
      (source.environment.evaluateFor policy (some f) c₂) := by
  refine evaluateFor_of_agreesWithin policy fun r hr => ?_
  cases r with
  | kinds =>
      obtain ⟨clause, hmem, htests⟩ := hr
      refine hkinds.resolve_left fun hnever => ?_
      rw [hnever clause hmem] at htests
      cases htests
  | key kind =>
      show c₁.key? kind = c₂.key? kind
      unfold Context.key?
      rw [hparts kind hr]
  | value kind reference =>
      have hpart := hparts kind hr.1
      exact ⟨by rw [hpart], Context.value?_congr hlegacy hpart reference⟩

/-- **Kinds are isolated.** Contexts that have the same parts of all used kinds are evaluated to the
same detail and error, and by the same questions, if no clause tests the kind or the contexts have
the same kinds. So a part of an unused kind changes nothing unless a clause tests the kind, and it
never matters whether a single context stands by itself or as the only part of another. -/
theorem evaluateFor_isolates (source : Source) (policy : EventPolicy) (f : Flag) :
    (∀ c₁ c₂ : Context, c₁.legacy = false → c₂.legacy = false →
      (∀ kind ∈ source.usedKinds f, c₁.part? kind = c₂.part? kind) →
      (source.NeverTestsKind f ∨ ∀ kind, kind ∈ c₁.kinds ↔ kind ∈ c₂.kinds) →
      (source.environment.evaluateFor policy (some f) c₁).SameButEvents
        (source.environment.evaluateFor policy (some f) c₂)) ∧
    (∀ (c : Context) (kind : String) (part : Json), c.Valid → c.legacy = false →
      Context.isValidKind kind = true → kind ≠ Context.multiKind →
      Context.isValidKey (part.member? "key") = true →
      kind ∉ source.usedKinds f → source.NeverTestsKind f →
      (source.environment.evaluateValue policy (some f) (c.withPart kind part).toJson).SameButEvents
        (source.environment.evaluateValue policy (some f) c.toJson)) ∧
    ∀ c : Context, c.Valid → c.legacy = false →
      (source.environment.evaluateValue policy (some f) c.asMulti.toJson).SameButEvents
        (source.environment.evaluateValue policy (some f) c.toJson) := by
  refine ⟨fun c₁ c₂ h₁ h₂ => evaluateFor_of_parts (h₁.trans h₂.symm), ?_, ?_⟩
  · intro c kind part hc hlegacy hkind hne hkey hunused hnever
    rw [evaluateValue_toJson (hc.withPart hlegacy hkind hne hkey), evaluateValue_toJson hc]
    refine evaluateFor_of_parts hlegacy.symm (fun other hother => ?_) (.inl hnever)
    exact hc.part?_withPart hlegacy hkind fun hsame => hunused (hsame ▸ hother)
  · intro c hc hlegacy
    obtain ⟨members, hmembers, hown, hparts⟩ := hc.asMulti hlegacy
    have hvalid : c.asMulti.Valid := hmembers ▸ .multi hown hparts
    have hlegacy' : c.asMulti.legacy = c.legacy := by rw [hmembers, hlegacy]
    rw [evaluateValue_toJson hvalid, evaluateValue_toJson hc]
    exact evaluateFor_of_parts hlegacy' (fun kind _ => hc.part?_asMulti hlegacy kind)
      (.inr fun kind => hc.mem_kinds_asMulti hlegacy kind)

/-- A flag that looks at organizations and, in a big segment, at users is blind to a device. -/
theorem evaluateFor_isolates_device :
    let names : Clause := ⟨some "org", none, .segmentMatch, [.string "s"], false⟩
    let reads : Clause := ⟨some "org", some ⟨"/address/city"⟩, .isIn, [.string "Bonn"], false⟩
    let f : Flag := { Flag.named "f" [] with rules := [⟨none, [names], .fixed 0, false⟩] }
    let s : Segment :=
      ⟨"s", 1, "", [], [], [], [], [⟨none, [reads], none, none, none⟩], true, some 1, none⟩
    let source : Source := ⟨⟨[], [("s", s)]⟩, fun _ => some ([], .stale)⟩
    let org : Entries Json := [("kind", .string "org"), ("key", .string "o"),
      ("address", .object [("city", .string "Bonn")])]
    let single : Context := ⟨org, false⟩
    let several : Context := ⟨[("kind", .string "multi"), ("org", .object org),
      ("user", .object [("key", .string "u")])], false⟩
    let device : Json := .object [("key", .string "d")]
    single.Valid ∧ several.Valid ∧ source.NeverTestsKind f ∧ "device" ∉ source.usedKinds f ∧
      (∀ kind ∈ source.usedKinds f,
        several.part? kind = (several.withPart "device" device).part? kind) ∧
      (source.environment.evaluateFor default (some f) several).SameButEvents
        (source.environment.evaluateFor default (some f) (several.withPart "device" device)) ∧
      (source.environment.evaluateValue default (some f)
          (several.withPart "device" device).toJson).SameButEvents
        (source.environment.evaluateValue default (some f) several.toJson) ∧
      (source.environment.evaluateValue default (some f) single.asMulti.toJson).SameButEvents
        (source.environment.evaluateValue default (some f) single.toJson) := by
  intro names reads f s source org single several device
  have hsingle : single.Valid := .single rfl (by decide) (by decide) rfl
  have hseveral : several.Valid := Context.valid_of_ofJson (v := several.toJson) rfl
  have hnever : source.NeverTestsKind f := by decide
  have hunused : "device" ∉ source.usedKinds f := by decide
  have hparts : ∀ kind ∈ source.usedKinds f,
      several.part? kind = (several.withPart "device" device).part? kind := by
    intro kind hkind
    refine (hseveral.part?_withPart rfl (by decide) ?_).symm
    rintro rfl
    exact hunused hkind
  obtain ⟨hsame, hadded, halone⟩ := evaluateFor_isolates source default f
  exact ⟨hsingle, hseveral, hnever, hunused, hparts, hsame _ _ rfl rfl hparts (.inl hnever),
    hadded several "device" device hseveral rfl (by decide) (by decide) rfl hunused hnever,
    halone single hsingle rfl⟩

end Environment
end FeatureFlags
