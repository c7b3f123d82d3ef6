import FeatureFlags.Proofs.Evaluation.Unfolding
import FeatureFlags.Proofs.Run.Effect

/-! # Evaluations as outcome and effects

Every part of the evaluator does the same whether memberships are asked for once or every time, and
whatever has been gathered before: `inSegment_alike` and `evaluate_alike`.

The two evaluators work in two environments of one source (`Environment.Reads`), so they find the
same flags and segments and get the same answers. The induction is over the path of keys; each lemma
before takes one function of the evaluator and assumes the statement of what it calls. -/

namespace FeatureFlags
namespace Environment

open Run (Alike)

variable {source : Source} {env₁ env₂ : Environment} {in₁ in₂ : String → Run Bool}
  (h₁ : env₁.Reads source) (h₂ : env₂.Reads source)

include h₁ h₂

/-! ## Over the same segments

Two functions that look for a context in a segment are given, which do the same for each key. -/

section

variable (hin : ∀ key, Alike source env₁ env₂ (in₁ key) (in₂ key)) (c : Context)

include hin

theorem clauseHolds_alike (clause : Clause) :
    Alike source env₁ env₂ (clauseHolds in₁ c clause) (clauseHolds in₂ c clause) := by
  unfold clauseHolds
  split
  · exact .bind h₁ h₂ (.anyM h₁ h₂ fun key _ => hin key) fun matched => .pure _
  · exact .ofExcept _

theorem clausesHold_alike (clauses : List Clause) :
    Alike source env₁ env₂ (clausesHold in₁ c clauses) (clausesHold in₂ c clauses) :=
  .allM h₁ h₂ fun clause _ => clauseHolds_alike h₁ h₂ hin c clause

theorem segmentRulesHold_alike (s : Segment) :
    Alike source env₁ env₂ (segmentRulesHold in₁ c s) (segmentRulesHold in₂ c s) := by
  refine .anyM h₁ h₂ fun rule _ => ?_
  refine .bind h₁ h₂ (clausesHold_alike h₁ h₂ hin c rule.clauses) fun holds => ?_
  cases holds with
  | true => exact .ofExcept _
  | false => exact .pure false

theorem segmentContains_alike (s : Segment) :
    Alike source env₁ env₂ (segmentContains in₁ c s) (segmentContains in₂ c s) := by
  unfold segmentContains
  cases s.listed? c with
  | some listed => exact .pure listed
  | none => exact segmentRulesHold_alike h₁ h₂ hin c s

theorem bigSegmentContains_alike (s : Segment) :
    Alike source env₁ env₂ (env₁.bigSegmentContains in₁ c s)
      (env₂.bigSegmentContains in₂ c s) := by
  unfold bigSegmentContains
  cases s.generation with
  | none => exact .bind h₁ h₂ (.mergeStatus _) fun _ => .pure false
  | some generation =>
      cases c.key? (s.unboundedContextKind.getD Context.defaultKind) with
      | none => exact .pure false
      | some contextKey =>
          refine .bind h₁ h₂ (.membership h₁ h₂ contextKey) fun membership => ?_
          cases membership.bind (Entries.find? (s.generationName generation)) with
          | some included => exact .pure included
          | none => exact segmentRulesHold_alike h₁ h₂ hin c s

theorem resolveSegment_alike (s : Segment) :
    Alike source env₁ env₂ (env₁.resolveSegment in₁ c s) (env₂.resolveSegment in₂ c s) := by
  unfold resolveSegment
  split
  · exact bigSegmentContains_alike h₁ h₂ hin c s
  · exact segmentContains_alike h₁ h₂ hin c s

theorem firstRule?_alike (index : Nat) (rules : List Rule) :
    Alike source env₁ env₂ (firstRule? in₁ c index rules) (firstRule? in₂ c index rules) := by
  induction rules generalizing index with
  | nil => exact .pure none
  | cons rule rules ih =>
      refine .bind h₁ h₂ (clausesHold_alike h₁ h₂ hin c rule.clauses) fun holds => ?_
      cases holds with
      | true => exact .pure _
      | false => exact ih (index + 1)

theorem serveOn_alike (f : Flag) :
    Alike source env₁ env₂ (serveOn in₁ c f) (serveOn in₂ c f) := by
  unfold serveOn
  cases f.targetVariation? c with
  | some variation => exact .ofExcept _
  | none =>
      refine .bind h₁ h₂ (firstRule?_alike h₁ h₂ hin c 0 f.rules) fun found => ?_
      cases found with
      | none => exact .ofExcept _
      | some rule => exact .ofExcept _

end

/-! ## Segments and flags

Both recursions end because the path gets longer, so the induction is over what is left of the
stored keys, with the statement for all longer paths at hand. -/

/-- Whether a context belongs to a segment is found out by the same effects in both environments. -/
theorem inSegment_alike (c : Context) (path : List String) (key : String) :
    Alike source env₁ env₂ (env₁.inSegment c path key) (env₂.inSegment c path key) := by
  induction path using source.data.segments.induction_off_path generalizing key with
  | step path ih =>
      rw [inSegment_eq, inSegment_eq, lookUpSegment, lookUpSegment, h₁.data, h₂.data]
      by_cases hp : key ∈ path
      · rw [if_pos hp, if_pos hp]
        exact .throw _
      · rw [if_neg hp, if_neg hp]
        refine .bind h₁ h₂ (.ask _) fun _ => ?_
        cases hs : Entries.find? key source.data.segments with
        | none => exact .pure false
        | some s => exact resolveSegment_alike h₁ h₂ (ih key s hp hs) c s

theorem meets_alike {policy : EventPolicy} {c : Context}
    {deeper₁ deeper₂ : List String → Flag → Run Detail} {path : List String} {f : Flag}
    {p : Prerequisite}
    (h : p.key ∉ path → ∀ g, Entries.find? p.key source.data.flags = some g →
      Alike source env₁ env₂ (deeper₁ (p.key :: path) g) (deeper₂ (p.key :: path) g)) :
    Alike source env₁ env₂ (env₁.meets policy c deeper₁ path f p)
      (env₂.meets policy c deeper₂ path f p) := by
  rw [meets, meets, h₁.data, h₂.data]
  by_cases hp : p.key ∈ path
  · rw [if_pos hp, if_pos hp]
    exact .throw _
  · rw [if_neg hp, if_neg hp]
    refine .bind h₁ h₂ (.ask _) fun _ => ?_
    cases hg : Entries.find? p.key source.data.flags with
    | none => exact .pure false
    | some g =>
        refine .bind h₁ h₂ (.contain (h hp g hg)) fun d => ?_
        exact .bind h₁ h₂ (.report _) fun _ => .pure _

theorem firstUnmet?_alike {met₁ met₂ : Prerequisite → Run Bool} {ps : List Prerequisite}
    (hmet : ∀ p, Alike source env₁ env₂ (met₁ p) (met₂ p)) :
    Alike source env₁ env₂ (firstUnmet? met₁ ps) (firstUnmet? met₂ ps) := by
  induction ps with
  | nil => exact .pure none
  | cons p ps ih =>
      refine .bind h₁ h₂ (hmet p) fun met => ?_
      cases met with
      | true => exact ih
      | false => exact .pure (some p)

/-- A flag is evaluated by the same effects in both environments. -/
theorem evaluate_alike (policy : EventPolicy) (c : Context) (path : List String) (f : Flag) :
    Alike source env₁ env₂ (env₁.evaluate policy c path f) (env₂.evaluate policy c path f) := by
  induction path using source.data.flags.induction_off_path generalizing f with
  | step path ih =>
      rw [evaluate_eq, evaluate_eq]
      split
      · exact .ofExcept _
      · refine .bind h₁ h₂ ?_ fun unmet => ?_
        -- The flag of a prerequisite has a longer path, of which the statement is known.
        · exact firstUnmet?_alike h₁ h₂ fun p => meets_alike h₁ h₂ fun hp g hg =>
            ih p.key g hp hg g
        · cases unmet with
          | some p => exact .ofExcept _
          | none => exact serveOn_alike h₁ h₂ (inSegment_alike h₁ h₂ c []) c f

theorem isMet_alike (policy : EventPolicy) (c : Context) (path : List String) (f : Flag)
    (p : Prerequisite) :
    Alike source env₁ env₂ (env₁.isMet policy c path f p) (env₂.isMet policy c path f p) :=
  meets_alike h₁ h₂ fun _ g _ => evaluate_alike h₁ h₂ policy c (p.key :: path) g

end Environment
end FeatureFlags
