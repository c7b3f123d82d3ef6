import FeatureFlags.Proofs.Evaluation.Ending

/-! # Circular references are real

An evaluation that is reported as circular has met a chain of references that comes back to the key
it names: of prerequisites from the evaluated flag, or of segments from one that a rule of the flag
names. So flags and segments that are shared, met again after another one, or named twice are no
harm, as long as no chain of references comes back (`evaluateFor_circular`).

Prerequisites are flags with rules of their own, and these may lead into a circle of segments as
well. Such an error stays with the prerequisite, which counts as not satisfied. Only a circle that
the evaluated flag leads to by its own references is reported for it. -/

namespace FeatureFlags
namespace Environment

variable {source : Source} {policy : EventPolicy} {c : Context} {f : Flag}

/-- The data account for an error that an evaluation reports. -/
theorem accountsFor_error_evaluateFor {e : EvaluationError}
    (h : (source.environment.evaluateFor policy (some f) c).error = some e) :
    source.data.AccountsFor f e := by
  rw [evaluateFor_some] at h
  have hrule : ∀ serving kind, Outcome (fun _ => True) EvaluationError.IsLocal
      (f.serveFor c serving kind) :=
    fun serving _ => Flag.serveFor_ends (fun _ _ => f.serve_local _ _) c serving
  have hends : Outcome (fun _ => True) (source.data.AccountsFor f)
      (Run.exec (source.environment.evaluate policy c [f.key] f) .start).1 :=
    evaluate_ends_accounted source.environment_available (f.serveOff_local _)
      (fun _ _ => f.serveOff_local _) (fun _ _ => f.serve_local _ _) (fun _ _ _ => hrule _ _)
      (hrule _ _) .start
  rw [Evaluation.error_ofRun.mp h] at hends
  exact hends

/-- **Circular references are real.** If an evaluation ends with a circular prerequisite, a chain of
prerequisites that starts at the flag comes back to the key of the error; if it ends with a circular
segment, a chain of segments that starts at one named by a rule of the flag does. So without such
chains neither error is reported, however flags and segments are shared. -/
theorem evaluateFor_circular (source : Source) (policy : EventPolicy) (c : Context) (f : Flag) :
    let e := source.environment.evaluateFor policy (some f) c
    (∀ key, e.error = some (.circularPrerequisite key) →
      ∃ keys, source.data.PrerequisiteChain f keys ∧ ComesBackTo key (f.key :: keys)) ∧
    (∀ key, e.error = some (.circularSegment key) →
      ∃ keys, (∀ first ∈ keys.head?, first ∈ f.segmentKeys) ∧ source.data.SegmentChain keys ∧
        ComesBackTo key keys) ∧
    ((∀ keys, source.data.PrerequisiteChain f keys → (f.key :: keys).Nodup) →
      ∀ key, e.error ≠ some (.circularPrerequisite key)) ∧
    ((∀ keys, (∀ first ∈ keys.head?, first ∈ f.segmentKeys) → source.data.SegmentChain keys →
      keys.Nodup) → ∀ key, e.error ≠ some (.circularSegment key)) := by
  intro e
  have hprerequisite : ∀ key, e.error = some (.circularPrerequisite key) →
      source.data.PrerequisitesComeBack f key := fun _ h => accountsFor_error_evaluateFor h
  have hsegment : ∀ key, e.error = some (.circularSegment key) →
      source.data.SegmentsComeBack f key := fun _ h => accountsFor_error_evaluateFor h
  refine ⟨hprerequisite, hsegment, fun hacyclic key h => ?_, fun hacyclic key h => ?_⟩
  · obtain ⟨keys, hchain, hback⟩ := hprerequisite key h
    exact hback.not_nodup (hacyclic keys hchain)
  · obtain ⟨keys, hfirst, hchain, hback⟩ := hsegment key h
    exact hback.not_nodup (hacyclic keys hfirst hchain)

/-- Prerequisites and segments that are shared and named twice are no harm. A flag that leads into a
circle is reported with the chain that closes it, and so is a segment that names itself. -/
theorem evaluateFor_circular_shared :
    let names := fun keys : List String =>
      Clause.mk none none .segmentMatch (keys.map .string) false
    let segment := fun (key : String) (keys : List String) =>
      Segment.mk key 1 "" [] [] [] [] [⟨none, [names keys], none, none, none⟩] false none none
    let rule := fun keys : List String => Rule.mk none [names keys] (.fixed 0) false
    let shared : Source := ⟨⟨[("a", .named "a" [⟨"g", 0⟩]), ("b", .named "b" [⟨"g", 0⟩]),
      ("g", .named "g" [])], [("s", segment "s" ["u"]), ("t", segment "t" ["u"]),
      ("u", segment "u" [])]⟩, fun _ => none⟩
    let f : Flag := { Flag.named "f" [⟨"a", 0⟩, ⟨"b", 0⟩, ⟨"a", 0⟩] with
      rules := [rule ["s", "t", "s"]] }
    let circle : Source := ⟨⟨[("x", .named "x" [⟨"y", 0⟩]), ("y", .named "y" [⟨"x", 0⟩])],
      [("s", segment "s" ["s"])]⟩, fun _ => none⟩
    let into : Flag := .named "into" [⟨"x", 0⟩]
    let self : Flag := { Flag.named "self" [] with rules := [rule ["s"]] }
    let c : Context := ⟨[("key", .string "u")], true⟩
    shared.data.Acyclic f ∧
      (∀ key, (shared.environment.evaluateFor default (some f) c).error
        ≠ some (.circularPrerequisite key)) ∧
      (∀ key, (shared.environment.evaluateFor default (some f) c).error
        ≠ some (.circularSegment key)) ∧
      (circle.environment.evaluateFor default (some into) c).error
        = some (.circularPrerequisite "x") ∧
      (∃ keys, circle.data.PrerequisiteChain into keys ∧ ComesBackTo "x" ("into" :: keys)) ∧
      (circle.environment.evaluateFor default (some self) c).error
        = some (.circularSegment "s") ∧
      ∃ keys, (∀ first ∈ keys.head?, first ∈ self.segmentKeys) ∧ circle.data.SegmentChain keys ∧
        ComesBackTo "s" keys := by
  intro names segment rule shared f circle into self c
  have hacyclic : shared.data.Acyclic f :=
    DataSet.acyclic_of_ranks
      (fun key => if key = "f" then 2 else if key = "g" then 0 else 1)
      (fun key => if key = "u" then 0 else 1)
      (by decide +kernel) (by decide +kernel) (by decide +kernel)
  obtain ⟨-, -, hprerequisites, hsegments⟩ := evaluateFor_circular shared default c f
  obtain ⟨hinto, -, -, -⟩ := evaluateFor_circular circle default c into
  obtain ⟨-, hself, -, -⟩ := evaluateFor_circular circle default c self
  have hx : (circle.environment.evaluateFor default (some into) c).error
      = some (.circularPrerequisite "x") := by decide +kernel
  have hs : (circle.environment.evaluateFor default (some self) c).error
      = some (.circularSegment "s") := by decide +kernel
  exact ⟨hacyclic, hprerequisites hacyclic.prerequisites,
    hsegments fun keys _ hchain => hacyclic.segments keys hchain, hx, hinto "x" hx, hs,
    hself "s" hs⟩

end Environment
end FeatureFlags
