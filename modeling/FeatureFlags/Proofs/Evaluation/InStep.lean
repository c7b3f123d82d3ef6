import FeatureFlags.Proofs.Evaluation.Ending
import FeatureFlags.Proofs.Run.InStep

/-! # Two evaluations in step

Two evaluations of a flag may differ in what they find stored and in the context. They are kept in
step if each segment that one of them resolves is resolved in step by the other, and if no flag can
tell the two contexts apart (`Environment.KeepsInStep`, `evaluate_inStep`).

What a flag or a segment asks of a context is asked clause by clause, share by share and list by
list; `TreatsAlike` says that each of these questions has the same answer for both contexts. What
the segments and flags have in common that are stored under one key is left open, as long as
resolving the segments stays in step; the flags are the same. -/

namespace FeatureFlags

open Run (Ends InStep)

/-! ## Contexts that cannot be told apart

Clauses that name segments ask nothing of the context by themselves. A segment is asked for the key
of the context, for its lists and for the weights of its rules. -/

/-- A clause that names no segments holds of both contexts or of neither, or fails alike. -/
def Clause.TreatsAlike (c₁ c₂ : Context) (clause : Clause) : Prop :=
  clause.op ≠ .segmentMatch → clause.holdsFor c₁ = clause.holdsFor c₂

structure Segment.TreatsAlike (c₁ c₂ : Context) (s : Segment) : Prop where
  listed : s.unbounded = false → s.listed? c₁ = s.listed? c₂
  key : s.unbounded = true → c₁.key? (s.unboundedContextKind.getD Context.defaultKind)
    = c₂.key? (s.unboundedContextKind.getD Context.defaultKind)
  clauses : ∀ rule ∈ s.rules, ∀ clause ∈ rule.clauses, clause.TreatsAlike c₁ c₂
  shares : ∀ rule ∈ s.rules, rule.sharesWith s c₁ = rule.sharesWith s c₂

/-- By itself, without its prerequisites and the segments it names, the flag cannot tell the
contexts apart. -/
structure Flag.TreatsAlike (c₁ c₂ : Context) (f : Flag) : Prop where
  target : f.targetVariation? c₁ = f.targetVariation? c₂
  clauses : ∀ rule ∈ f.rules, ∀ clause ∈ rule.clauses, clause.TreatsAlike c₁ c₂
  rules : ∀ rule ∈ f.rules,
    rule.serving.variationFor c₁ f.key f.salt = rule.serving.variationFor c₂ f.key f.salt
  fallthrough : f.fallthrough.variationFor c₁ f.key f.salt
    = f.fallthrough.variationFor c₂ f.key f.salt

theorem Segment.TreatsAlike.refl (c : Context) (s : Segment) : s.TreatsAlike c c :=
  ⟨fun _ => rfl, fun _ => rfl, fun _ _ _ _ _ => rfl, fun _ _ => rfl⟩

theorem Flag.TreatsAlike.refl (c : Context) (f : Flag) : f.TreatsAlike c c :=
  ⟨rfl, fun _ _ _ _ _ => rfl, fun _ _ => rfl, rfl⟩

namespace Environment

variable {R : Progress → Progress → Prop} {env₁ env₂ : Environment} {policy : EventPolicy}
  {c₁ c₂ : Context}

/-! ## Over segments in step

Two functions that look for a context in a segment are given, which are in step for each key. -/

section

variable {in₁ in₂ : String → Run Bool} (hin : ∀ key, InStep R (in₁ key) (in₂ key))

include hin

theorem clauseHolds_inStep {clause : Clause} (h : clause.TreatsAlike c₁ c₂) :
    InStep R (clauseHolds in₁ c₁ clause) (clauseHolds in₂ c₂ clause) := by
  unfold clauseHolds
  by_cases hop : clause.op = .segmentMatch
  · rw [if_pos hop, if_pos hop]
    exact .bind (.anyM fun key _ => hin key) fun matched => .pure _
  · rw [if_neg hop, if_neg hop, h hop]
    exact .ofExcept _

theorem clausesHold_inStep {clauses : List Clause}
    (h : ∀ clause ∈ clauses, clause.TreatsAlike c₁ c₂) :
    InStep R (clausesHold in₁ c₁ clauses) (clausesHold in₂ c₂ clauses) :=
  .allM fun clause hc => clauseHolds_inStep hin (h clause hc)

theorem segmentRulesHold_inStep {s : Segment} (h : s.TreatsAlike c₁ c₂) :
    InStep R (segmentRulesHold in₁ c₁ s) (segmentRulesHold in₂ c₂ s) := by
  refine .anyM fun rule hr => ?_
  refine .bind (clausesHold_inStep hin (h.clauses rule hr)) fun holds => ?_
  cases holds with
  | true =>
      show InStep R (Run.ofExcept (rule.sharesWith s c₁)) (Run.ofExcept (rule.sharesWith s c₂))
      rw [h.shares rule hr]
      exact .ofExcept _
  | false => exact .pure false

/-- A segment is resolved in step if learning about the store and getting at memberships are. -/
theorem resolveSegment_inStep {s : Segment} (h : s.TreatsAlike c₁ c₂)
    (hmerge : ∀ status, InStep R (Run.mergeStatus status) (Run.mergeStatus status))
    (hmembership : ∀ contextKey,
      InStep R (env₁.membership contextKey) (env₂.membership contextKey)) :
    InStep R (env₁.resolveSegment in₁ c₁ s) (env₂.resolveSegment in₂ c₂ s) := by
  have hrules := segmentRulesHold_inStep hin h
  unfold resolveSegment
  by_cases hunbounded : s.unbounded = true
  · rw [if_pos hunbounded, if_pos hunbounded]
    unfold bigSegmentContains
    cases s.generation with
    | none => exact .bind (hmerge _) fun _ => .pure false
    | some generation =>
        dsimp only
        rw [h.key hunbounded]
        cases c₂.key? (s.unboundedContextKind.getD Context.defaultKind) with
        | none => exact .pure false
        | some contextKey =>
            -- Where the membership says nothing about the segment, its rules decide.
            refine .bind (hmembership contextKey) fun membership => ?_
            cases membership.bind (Entries.find? (s.generationName generation)) with
            | some included => exact .pure included
            | none => exact hrules
  · rw [if_neg hunbounded, if_neg hunbounded]
    unfold segmentContains
    rw [h.listed (Bool.eq_false_iff.mpr hunbounded)]
    cases s.listed? c₂ with
    | some listed => exact .pure listed
    | none => exact hrules

theorem firstRule?_inStep (index : Nat) {rules : List Rule}
    (h : ∀ rule ∈ rules, ∀ clause ∈ rule.clauses, clause.TreatsAlike c₁ c₂) :
    InStep R (firstRule? in₁ c₁ index rules) (firstRule? in₂ c₂ index rules) := by
  induction rules generalizing index with
  | nil => exact .pure none
  | cons rule rules ih =>
      obtain ⟨hrule, hrules⟩ := List.forall_mem_cons.mp h
      refine .bind (clausesHold_inStep hin hrule) fun holds => ?_
      cases holds with
      | true => exact .pure _
      | false => exact ih (index + 1) hrules

theorem serveOn_inStep {f : Flag} (h : f.TreatsAlike c₁ c₂) :
    InStep R (serveOn in₁ c₁ f) (serveOn in₂ c₂ f) := by
  have hserve : ∀ (serving : Serving) (kind : ReasonKind),
      serving.variationFor c₁ f.key f.salt = serving.variationFor c₂ f.key f.salt →
      InStep R (Run.ofExcept (f.serveFor c₁ serving kind))
        (Run.ofExcept (f.serveFor c₂ serving kind)) := by
    intro serving kind hvariation
    rw [Flag.serveFor, Flag.serveFor, hvariation]
    exact .ofExcept _
  unfold serveOn
  rw [h.target]
  cases f.targetVariation? c₂ with
  | some variation => exact .ofExcept _
  | none =>
      -- Only the servings of the flag's own rules are treated alike, so a rule that is found has to
      -- be known as one of them.
      have hfound : Ends (firstRule? in₁ c₁ 0 f.rules) _ _ :=
        firstRule?_ends 0 fun rule _ => .anyhow _
      refine .bind_ends hfound (firstRule?_inStep hin 0 h.clauses) fun found hf => ?_
      cases found with
      | none => exact hserve _ _ h.fallthrough
      | some found =>
          obtain ⟨k, -, hget⟩ := hf found.1 found.2 rfl
          exact hserve _ _ (h.rules found.2 (List.mem_of_getElem? hget))

end

/-! ## Segments and flags

By induction over what is left of the stored keys, as both paths are the same. -/

def ResolvesInStep (env₁ env₂ : Environment) (c₁ c₂ : Context) (R : Progress → Progress → Prop)
    (s₁ s₂ : Segment) : Prop :=
  ∀ in₁ in₂ : String → Run Bool, (∀ key, InStep R (in₁ key) (in₂ key)) →
    InStep R (env₁.resolveSegment in₁ c₁ s₁) (env₂.resolveSegment in₂ c₂ s₂)

structure KeepsInStep (env₁ env₂ : Environment) (policy : EventPolicy) (c₁ c₂ : Context)
    (R : Progress → Progress → Prop) : Prop where
  ask : ∀ q, InStep R (Run.ask q) (Run.ask q)
  report : ∀ g d f, InStep R (Run.report (policy.event g c₁ d .null (some f)))
    (Run.report (policy.event g c₂ d .null (some f)))
  segments : ∀ key, Option.Rel (ResolvesInStep env₁ env₂ c₁ c₂ R)
    (Entries.find? key env₁.data.segments) (Entries.find? key env₂.data.segments)
  flags : ∀ key, Entries.find? key env₁.data.flags = Entries.find? key env₂.data.flags
  treatsAlike : ∀ key g, Entries.find? key env₁.data.flags = some g → g.TreatsAlike c₁ c₂

/-- Looking for the context in a segment keeps in step. -/
theorem inSegment_inStep (h : KeepsInStep env₁ env₂ policy c₁ c₂ R) (path : List String)
    (key : String) : InStep R (env₁.inSegment c₁ path key) (env₂.inSegment c₂ path key) := by
  induction path using env₁.data.segments.induction_off_path generalizing key with
  | step path ih =>
      rw [inSegment_eq, inSegment_eq, lookUpSegment, lookUpSegment]
      by_cases hp : key ∈ path
      · rw [if_pos hp, if_pos hp]
        exact .throw _
      · rw [if_neg hp, if_neg hp]
        refine .bind (h.ask _) fun _ => ?_
        have hstored := h.segments key
        generalize hs₁ : Entries.find? key env₁.data.segments = stored₁ at hstored ⊢
        generalize Entries.find? key env₂.data.segments = stored₂ at hstored ⊢
        cases hstored with
        | none => exact .pure false
        | some hresolves => exact hresolves _ _ (ih key _ hp hs₁)

theorem firstUnmet?_inStep {met₁ met₂ : Prerequisite → Run Bool} {ps : List Prerequisite}
    (h : ∀ p ∈ ps, InStep R (met₁ p) (met₂ p)) :
    InStep R (firstUnmet? met₁ ps) (firstUnmet? met₂ ps) := by
  induction ps with
  | nil => exact .pure none
  | cons p ps ih =>
      refine .bind (h p List.mem_cons_self) fun met => ?_
      cases met with
      | true => exact ih fun q hq => h q (List.mem_cons_of_mem p hq)
      | false => exact .pure _

/-- Evaluating a flag that cannot tell the contexts apart keeps in step. -/
theorem evaluate_inStep (h : KeepsInStep env₁ env₂ policy c₁ c₂ R) (path : List String) {f : Flag}
    (hf : f.TreatsAlike c₁ c₂) :
    InStep R (env₁.evaluate policy c₁ path f) (env₂.evaluate policy c₂ path f) := by
  induction path using env₁.data.flags.induction_off_path generalizing f with
  | step path ih =>
      rw [evaluate_eq, evaluate_eq]
      split
      · exact .ofExcept _
      · refine .bind (firstUnmet?_inStep fun p _ => ?_) fun unmet => ?_
        · rw [isMet, isMet, meets, meets, ← h.flags p.key]
          by_cases hp : p.key ∈ path
          · rw [if_pos hp, if_pos hp]
            exact .throw _
          · rw [if_neg hp, if_neg hp]
            refine .bind (h.ask _) fun _ => ?_
            cases hg : Entries.find? p.key env₁.data.flags with
            | none => exact .pure false
            | some g =>
                have hdeeper := ih p.key g hp hg (h.treatsAlike p.key g hg)
                refine .bind (.contain hdeeper) fun d => ?_
                exact .bind (h.report g d f) fun _ => .pure _
        · cases unmet with
          | some p => exact .ofExcept _
          | none => exact serveOn_inStep (inSegment_inStep h []) hf

end Environment
end FeatureFlags
