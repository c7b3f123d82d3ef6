import FeatureFlags.Proofs.Evaluation.Graph
import FeatureFlags.Proofs.Evaluation.Unfolding
import FeatureFlags.Proofs.Run.Ending

/-! # How an evaluation may end

The rules of `Run.Ends` for the functions of the evaluator. There are three sources of errors, and
each is treated by itself.

* **Parts of a flag or a segment** — clauses, shares and variations fail by themselves, and know
  nothing of paths (`Clause.FailsWith`, `EvaluationError.IsLocal`).
* **Segments** — a reference between segments can lead into a circle, which is an error of the flag
  whose rule has led there (`inSegment_ends`).
* **Prerequisites** — errors of prerequisites are contained, with the exception of a circular path
  (`evaluate_ends`).

The paths to segments and flags are dealt with by invariants of the path, which are carried down. So
every error of an evaluation is a local one or comes from a chain of references that comes back
(`DataSet.AccountsFor`). -/

namespace FeatureFlags

open Run (Ends)

variable {E : EvaluationError → Prop}

def Clause.FailsWith (clause : Clause) (c : Context) (E : EvaluationError → Prop) : Prop :=
  clause.op ≠ .segmentMatch → Outcome (fun _ => True) E (clause.holdsFor c)

/-- By itself, without the segments it names, a rule of the segment fails with `E` only. -/
def SegmentRule.FailsWith (rule : SegmentRule) (s : Segment) (c : Context)
    (E : EvaluationError → Prop) : Prop :=
  (∀ clause ∈ rule.clauses, clause.FailsWith c E) ∧
    Outcome (fun _ => True) E (rule.sharesWith s c)

namespace Environment

variable {env : Environment} {inSeg : String → Run Bool} {c : Context}

/-! ## Clauses and segments

What looking for the context in another segment fails with is assumed, for the keys that are
named. -/

theorem clauseHolds_ends {clause : Clause} (hown : clause.FailsWith c E)
    (hin : ∀ key ∈ clause.segmentKeys, Ends (inSeg key) (fun _ => True) E) :
    Ends (clauseHolds inSeg c clause) (fun _ => True) E := by
  unfold clauseHolds
  by_cases hop : clause.op = .segmentMatch
  · rw [if_pos hop]
    rw [Clause.segmentKeys, if_pos hop] at hin
    exact .bind (.anyM hin) fun _ _ => .pure trivial
  · rw [if_neg hop]
    exact .ofExcept (hown hop)

theorem clausesHold_ends {clauses : List Clause} (hown : ∀ clause ∈ clauses, clause.FailsWith c E)
    (hin : ∀ clause ∈ clauses, ∀ key ∈ clause.segmentKeys, Ends (inSeg key) (fun _ => True) E) :
    Ends (clausesHold inSeg c clauses) (fun _ => True) E :=
  .allM fun clause hc => clauseHolds_ends (hown clause hc) (hin clause hc)

theorem segmentRulesHold_ends {s : Segment} (hown : ∀ rule ∈ s.rules, rule.FailsWith s c E)
    (hin : ∀ key ∈ s.segmentKeys, Ends (inSeg key) (fun _ => True) E) :
    Ends (segmentRulesHold inSeg c s) (fun _ => True) E := by
  refine .anyM fun rule hr => ?_
  have hclauses : Ends (clausesHold inSeg c rule.clauses) (fun _ => True) E :=
    clausesHold_ends (hown rule hr).1 fun clause hc key hk =>
      hin key (Segment.mem_segmentKeys hr hc hk)
  refine .bind hclauses fun holds _ => ?_
  cases holds with
  | true => exact .ofExcept (hown rule hr).2
  | false => exact .pure trivial

theorem resolveSegment_ends {s : Segment} (hmem : env.Available)
    (hown : ∀ rule ∈ s.rules, rule.FailsWith s c E)
    (hin : ∀ key ∈ s.segmentKeys, Ends (inSeg key) (fun _ => True) E) :
    Ends (env.resolveSegment inSeg c s) (fun _ => True) E := by
  have hrules := segmentRulesHold_ends hown hin
  unfold resolveSegment
  split
  · unfold bigSegmentContains
    cases s.generation with
    | none => exact .bind (.mergeStatus _) fun _ _ => .pure trivial
    | some generation =>
        cases c.key? (s.unboundedContextKind.getD Context.defaultKind) with
        | none => exact .pure trivial
        | some contextKey =>
            refine .bind (hmem.ends contextKey) fun membership _ => ?_
            cases membership.bind (Entries.find? (s.generationName generation)) with
            | some included => exact .pure trivial
            | none => exact hrules
  · unfold segmentContains
    cases s.listed? c with
    | some listed => exact .pure trivial
    | none => exact hrules

/-- An invariant of the path to a segment, kept by each reference to a stored segment, bounds what
looking for the context in the segment fails with. -/
theorem inSegment_ends (hmem : env.Available) (Inv : List String → String → Prop)
    (circular : ∀ path key, Inv path key → key ∈ path → E (.circularSegment key))
    (own : ∀ key s, Entries.find? key env.data.segments = some s →
      ∀ rule ∈ s.rules, rule.FailsWith s c E)
    (step : ∀ path key s, Inv path key → key ∉ path →
      Entries.find? key env.data.segments = some s → ∀ next ∈ s.segmentKeys, Inv (key :: path) next)
    (path : List String) (key : String) (h : Inv path key) :
    Ends (env.inSegment c path key) (fun _ => True) E := by
  induction path using env.data.segments.induction_off_path generalizing key with
  | step path ih =>
      rw [inSegment_eq, lookUpSegment]
      by_cases hp : key ∈ path
      · rw [if_pos hp]
        exact .throw (circular path key h hp)
      · rw [if_neg hp]
        refine .bind (.ask _) fun _ _ => ?_
        cases hs : Entries.find? key env.data.segments with
        | none => exact .pure trivial
        | some s =>
            -- What this segment names is looked at with its key on the path.
            exact resolveSegment_ends hmem (own key s hs) fun next hk =>
              ih key s hp hs next (step path key s h hp hs next hk)

/-! ## Flags

A flag serves for a target, for a rule or for want of both, and only the clauses of rules look at
segments. -/

/-- A rule that is found stands at the place that is told. -/
theorem firstRule?_ends {rules : List Rule} (index : Nat)
    (h : ∀ rule ∈ rules, Ends (clausesHold inSeg c rule.clauses) (fun _ => True) E) :
    Ends (firstRule? inSeg c index rules)
      (fun found => ∀ place rule, found = some (place, rule) →
        ∃ k, place = index + k ∧ rules[k]? = some rule) E := by
  induction rules generalizing index with
  | nil => exact .pure fun _ _ hf => by cases hf
  | cons rule rules ih =>
      refine .bind (h rule List.mem_cons_self) fun holds _ => ?_
      cases holds with
      | true =>
          refine .pure ?_
          rintro _ _ ⟨⟩
          exact ⟨0, rfl, rfl⟩
      | false =>
          have hrest := ih (index + 1) fun r hr => h r (List.mem_cons_of_mem rule hr)
          refine hrest.mono (fun found hf place r heq => ?_) fun _ he => he
          obtain ⟨k, hk, hget⟩ := hf place r heq
          exact ⟨k + 1, by omega, hget⟩

/-- What targets, rules and fallthrough of a flag come to. -/
theorem serveOn_ends {A : Detail → Prop} {f : Flag}
    (target : ∀ variation, f.targetVariation? c = some variation →
      Outcome A E (f.serve variation (.plain .targetMatch)))
    (clauses : ∀ rule ∈ f.rules, Ends (clausesHold inSeg c rule.clauses) (fun _ => True) E)
    (rules : ∀ (index : Nat) rule, f.rules[index]? = some rule →
      Outcome A E (f.serveFor c rule.serving (.ruleMatch index rule.id)))
    (rest : Outcome A E (f.serveFor c f.fallthrough .fallthrough)) :
    Ends (serveOn inSeg c f) A E := by
  unfold serveOn
  cases ht : f.targetVariation? c with
  | some variation => exact .ofExcept (target variation ht)
  | none =>
      refine .bind (firstRule?_ends 0 clauses) fun found hf => ?_
      cases found with
      | none => exact .ofExcept rest
      | some found =>
          obtain ⟨index, rule⟩ := found
          obtain ⟨k, hk, hget⟩ := hf index rule rfl
          rw [Nat.zero_add] at hk
          subst hk
          exact .ofExcept (rules index rule hget)

theorem firstUnmet?_ends {isMet : Prerequisite → Run Bool} {ps : List Prerequisite}
    (h : ∀ p ∈ ps, Ends (isMet p) (fun _ => True) E) :
    Ends (firstUnmet? isMet ps) (fun unmet => ∀ p, unmet = some p → p ∈ ps) E := by
  induction ps with
  | nil => exact .pure fun _ hp => by cases hp
  | cons p ps ih =>
      refine .bind (h p List.mem_cons_self) fun met _ => ?_
      cases met with
      | false =>
          refine .pure ?_
          rintro _ ⟨⟩
          exact List.mem_cons_self
      | true =>
          have hrest := ih fun q hq => h q (List.mem_cons_of_mem p hq)
          exact hrest.mono (fun _ hf q hq => List.mem_cons_of_mem p (hf q hq)) fun _ he => he

/-- Whatever the flags of prerequisites fail with, only a circular path gets through. -/
theorem checkPrerequisites_ends {policy : EventPolicy} {path : List String} {f : Flag}
    (circular : ∀ p ∈ f.prerequisites, p.key ∈ path → E (.circularPrerequisite p.key))
    (deeper : ∀ p ∈ f.prerequisites, p.key ∉ path → ∀ g,
      Entries.find? p.key env.data.flags = some g →
      Ends (env.evaluate policy c (p.key :: path) g) (fun _ => True)
        (fun e => ∀ key, e = .circularPrerequisite key → E e)) :
    Ends (env.checkPrerequisites policy c path f)
      (fun unmet => ∀ p, unmet = some p → p ∈ f.prerequisites) E := by
  refine firstUnmet?_ends fun p hmem => ?_
  rw [isMet, meets]
  by_cases hp : p.key ∈ path
  · rw [if_pos hp]
    exact .throw (circular p hmem hp)
  · rw [if_neg hp]
    refine .bind (.ask _) fun _ _ => ?_
    cases hg : Entries.find? p.key env.data.flags with
    | none => exact .pure trivial
    | some g =>
        -- Of the errors of `g` only a circular path is let through, and that one has `E`.
        have hcontained := Ends.contain (deeper p hmem hp g hg) fun _ _ _ => trivial
        have hflag : Ends (contain (env.evaluate policy c (p.key :: path) g))
            (fun _ => True) E := by
          refine hcontained.mono (fun _ h => h) ?_
          rintro e ⟨he, key, hk⟩
          exact he key hk
        exact .bind hflag fun d _ => .bind (.report _) fun _ _ => .pure trivial

/-! ## What fails by itself

Clauses, shares and variations know nothing of paths, and the flag and the context are there. -/

end Environment

def EvaluationError.IsLocal : EvaluationError → Prop
  | invalidVariationIndex _ => True
  | missingVariationOrRollout => True
  | emptyRollout => True
  | invalidReference _ => True
  | _ => False

def EvaluationError.IsContained (e : EvaluationError) : Prop := ∀ key, e ≠ .circularPrerequisite key

theorem EvaluationError.IsLocal.isContained {e : EvaluationError} (h : e.IsLocal) :
    e.IsContained := by
  rintro key rfl
  exact h

theorem Outcome.mono {α : Type} {A A' : α → Prop} {E E' : EvaluationError → Prop}
    {r : Except EvaluationError α} (h : Outcome A E r) (hA : ∀ a, A a → A' a)
    (hE : ∀ e, E e → E' e) : Outcome A' E' r := by
  cases r with
  | ok a => exact hA a h
  | error e => exact hE e h

theorem Clause.failsWith_local (clause : Clause) (c : Context) :
    clause.FailsWith c EvaluationError.IsLocal := by
  intro _
  unfold Clause.holdsFor
  cases clause.reference with
  | none => trivial
  | some reference =>
      dsimp only
      split
      · trivial
      · split
        · trivial
        · split <;> trivial

theorem SegmentRule.failsWith_local (rule : SegmentRule) (s : Segment) (c : Context) :
    rule.FailsWith s c EvaluationError.IsLocal := by
  refine ⟨fun clause _ => clause.failsWith_local c, ?_⟩
  unfold SegmentRule.sharesWith
  cases rule.weight with
  | none => trivial
  | some weight =>
      dsimp only
      split <;> trivial

theorem Serving.variationFor_local (s : Serving) (c : Context) (key salt : String) :
    Outcome (fun _ => True) EvaluationError.IsLocal (s.variationFor c key salt) := by
  unfold Serving.variationFor
  split
  · trivial
  · trivial
  · split
    · trivial
    · dsimp only
      split <;> trivial

namespace Flag

theorem serve_local (f : Flag) (index : Int64) (reason : Reason) :
    Outcome (fun _ => True) EvaluationError.IsLocal (f.serve index reason) := by
  unfold serve
  cases f.variation? index with
  | none => trivial
  | some found => trivial

theorem serveOff_local (f : Flag) (reason : Reason) :
    Outcome (fun _ => True) EvaluationError.IsLocal (f.serveOff reason) := by
  unfold serveOff
  cases f.offVariation with
  | none => trivial
  | some index => exact f.serve_local index reason

theorem serveOff_contained (f : Flag) (reason : Reason) :
    Outcome (fun _ => True) EvaluationError.IsContained (f.serveOff reason) :=
  (f.serveOff_local reason).mono (fun _ h => h) fun _ h => h.isContained

/-- Whatever the variations come to, serving for a rule or the fallthrough comes to that. -/
theorem serveFor_ends {A : Detail → Prop} {f : Flag} {kind : ReasonKind}
    (h : ∀ index inExperiment,
      Outcome A EvaluationError.IsLocal (f.serve index (.tracked kind inExperiment)))
    (c : Context) (serving : Serving) :
    Outcome A EvaluationError.IsLocal (f.serveFor c serving kind) := by
  have hlocal := serving.variationFor_local c f.key f.salt
  unfold serveFor
  cases hv : serving.variationFor c f.key f.salt with
  | ok served => exact h served.1 served.2
  | error e =>
      rw [hv] at hlocal
      exact hlocal

end Flag

/-! ## Circular segments

A circular path of segments is met only along a chain of references from the flag. -/

namespace Environment

variable {env : Environment} {c : Context}

/-- Along a chain of segments from one that the flag names, looking for the context fails by itself
or where the chain comes back. -/
theorem inSegment_ends_local (hmem : env.Available) (f : Flag) {key : String}
    (hkey : key ∈ f.segmentKeys) :
    Ends (env.inSegment c [] key) (fun _ => True) (fun e => e.IsLocal ∨
      ∃ key, e = .circularSegment key ∧ env.data.SegmentsComeBack f key) := by
  let Inv (path : List String) (key : String) : Prop :=
    (∀ first ∈ (path.reverse ++ [key]).head?, first ∈ f.segmentKeys) ∧
      env.data.SegmentChain (path.reverse ++ [key])
  refine inSegment_ends hmem Inv ?_ ?_ ?_ [] key ⟨?_, .singleton⟩
  · rintro path key ⟨hfirst, hchain⟩ hp
    exact .inr ⟨key, rfl, _, hfirst, hchain, path.reverse, rfl, List.mem_reverse.mpr hp⟩
  · intro key s _ rule _
    have hown := rule.failsWith_local s c
    exact ⟨fun clause hc hop => (hown.1 clause hc hop).mono (fun _ h => h) fun _ => .inl,
      hown.2.mono (fun _ h => h) fun _ => .inl⟩
  · rintro path key s ⟨hfirst, hchain⟩ _ hs next hnext
    have hpath : (key :: path).reverse ++ [next] = path.reverse ++ [key] ++ [next] := by
      rw [List.reverse_cons]
    refine ⟨?_, hpath ▸ hchain.concat hs hnext⟩
    rw [hpath, List.head?_append_of_ne_nil _ (by simp)]
    exact hfirst
  · rintro _ ⟨⟩
    exact hkey

/-- What targets, rules and fallthrough come to. It takes a chain of segments that comes back for an
error that is not local. -/
theorem serveOn_ends_local {A : Detail → Prop} {f : Flag} (hmem : env.Available)
    (target : ∀ variation, f.targetVariation? c = some variation →
      Outcome A EvaluationError.IsLocal (f.serve variation (.plain .targetMatch)))
    (rules : ∀ (index : Nat) rule, f.rules[index]? = some rule →
      Outcome A EvaluationError.IsLocal (f.serveFor c rule.serving (.ruleMatch index rule.id)))
    (rest : Outcome A EvaluationError.IsLocal (f.serveFor c f.fallthrough .fallthrough)) :
    Ends (serveOn (env.inSegment c []) c f) A (fun e => e.IsLocal ∨
      ∃ key, e = .circularSegment key ∧ env.data.SegmentsComeBack f key) := by
  refine serveOn_ends (fun variation ht => (target variation ht).mono (fun _ h => h) fun _ => .inl)
    (fun rule hr => ?_)
    (fun index rule hrule => (rules index rule hrule).mono (fun _ h => h) fun _ => .inl)
    (rest.mono (fun _ h => h) fun _ => .inl)
  refine clausesHold_ends (fun clause _ hop => ?_) fun clause hc key hk => ?_
  · exact (clause.failsWith_local c hop).mono (fun _ h => h) fun _ => .inl
  · exact inSegment_ends_local hmem f (Flag.mem_segmentKeys hr hc hk)

theorem serveOn_contained (hmem : env.Available) (f : Flag) :
    Ends (serveOn (env.inSegment c []) c f) (fun _ => True) EvaluationError.IsContained := by
  refine (serveOn_ends_local hmem (fun _ _ => f.serve_local _ _)
    (fun _ _ _ => Flag.serveFor_ends (fun _ _ => f.serve_local _ _) c _)
    (Flag.serveFor_ends (fun _ _ => f.serve_local _ _) c _)).mono (fun _ h => h) ?_
  rintro e (hlocal | ⟨key, rfl, -⟩)
  · exact hlocal.isContained
  · exact fun _ h => by cases h

/-! ## Circular prerequisites

Only the check of prerequisites reports a circular path. -/

variable {policy : EventPolicy}

/-- An invariant of the path to a flag, kept by each prerequisite that is stored, bounds what a
circular path is reported with. -/
theorem evaluate_ends (hmem : env.Available)
    (Inv : List String → Flag → Prop)
    (circular : ∀ path f, Inv path f → ∀ p ∈ f.prerequisites, p.key ∈ path →
      E (.circularPrerequisite p.key))
    (step : ∀ path f, Inv path f → ∀ p ∈ f.prerequisites, p.key ∉ path → ∀ g,
      Entries.find? p.key env.data.flags = some g → Inv (p.key :: path) g)
    (path : List String) (f : Flag) (h : Inv path f) :
    Ends (env.evaluate policy c path f) (fun _ => True) (fun e => e.IsContained ∨ E e) := by
  induction path using env.data.flags.induction_off_path generalizing f with
  | step path ih =>
      rw [evaluate_eq]
      split
      · exact (Ends.ofExcept (f.serveOff_contained _)).mono (fun _ h => h) fun _ => .inl
      · have hdeeper : ∀ p ∈ f.prerequisites, p.key ∉ path → ∀ g,
            Entries.find? p.key env.data.flags = some g →
            Ends (env.evaluate policy c (p.key :: path) g) (fun _ => True)
              (fun e => ∀ key, e = .circularPrerequisite key → E e) := by
          intro p hm hp g hg
          refine (ih p.key g hp hg g (step path f h p hm hp g hg)).mono (fun _ _ => trivial) ?_
          intro e he key hk
          exact he.resolve_left fun hc => hc key hk
        have hcheck := checkPrerequisites_ends (circular path f h) hdeeper
        refine .bind (hcheck.mono (fun _ h => h) fun _ => .inr) fun unmet _ => ?_
        cases unmet with
        | some p => exact (Ends.ofExcept (f.serveOff_contained _)).mono (fun _ h => h) fun _ => .inl
        | none => exact (serveOn_contained hmem f).mono (fun _ h => h) fun _ => .inl

/-- Below a flag, a circular path of prerequisites is met only where a chain of them comes back. -/
theorem evaluate_ends_circular (hmem : env.Available) {f g : Flag} {keys : List String}
    {path : List String} (hpath : path.reverse = f.key :: keys)
    (hchain : ∀ next ∈ g.prerequisiteKeys, env.data.PrerequisiteChain f (keys ++ [next])) :
    Ends (env.evaluate policy c path g) (fun _ => True) (fun e => e.IsContained ∨
      ∃ key, e = .circularPrerequisite key ∧ env.data.PrerequisitesComeBack f key) := by
  let Inv (path : List String) (g : Flag) : Prop :=
    ∃ keys, path.reverse = f.key :: keys ∧
      ∀ next ∈ g.prerequisiteKeys, env.data.PrerequisiteChain f (keys ++ [next])
  refine evaluate_ends hmem Inv ?_ ?_ path g ⟨keys, hpath, hchain⟩
  · rintro path g ⟨keys, hpath, hchain⟩ p hm hp
    have hkey : p.key ∈ g.prerequisiteKeys := List.mem_map_of_mem hm
    refine ⟨p.key, rfl, keys ++ [p.key], hchain p.key hkey, f.key :: keys, rfl, ?_⟩
    exact hpath ▸ List.mem_reverse.mpr hp
  · rintro path g ⟨keys, hpath, hchain⟩ p hm _ g' hg
    have hkey : p.key ∈ g.prerequisiteKeys := List.mem_map_of_mem hm
    refine ⟨keys ++ [p.key], ?_, fun next hnext => (hchain p.key hkey).concat hg hnext⟩
    rw [List.reverse_cons, hpath, List.cons_append]

end Environment

/-- The error is one that the flag may come to by itself, or a chain of references that comes back
accounts for it. -/
def DataSet.AccountsFor (d : DataSet) (f : Flag) : EvaluationError → Prop
  | .circularPrerequisite key => d.PrerequisitesComeBack f key
  | .circularSegment key => d.SegmentsComeBack f key
  | e => e.IsLocal

theorem EvaluationError.IsLocal.accountedFor {e : EvaluationError} (h : e.IsLocal) (d : DataSet)
    (f : Flag) : d.AccountsFor f e := by
  cases e <;> first | exact h | exact h.elim

namespace Environment

variable {env : Environment} {policy : EventPolicy} {c : Context}

/-- What a whole evaluation comes to, if what it may serve has `A`. The data account for its
errors. -/
theorem evaluate_ends_accounted {A : Detail → Prop} {f : Flag} (hmem : env.Available)
    (off : Outcome A EvaluationError.IsLocal (f.serveOff (.plain .off)))
    (unmet : ∀ p ∈ f.prerequisites,
      Outcome A EvaluationError.IsLocal (f.serveOff (.plain (.prerequisiteFailed p.key))))
    (target : ∀ variation, f.targetVariation? c = some variation →
      Outcome A EvaluationError.IsLocal (f.serve variation (.plain .targetMatch)))
    (rules : ∀ (index : Nat) rule, f.rules[index]? = some rule →
      Outcome A EvaluationError.IsLocal (f.serveFor c rule.serving (.ruleMatch index rule.id)))
    (rest : Outcome A EvaluationError.IsLocal (f.serveFor c f.fallthrough .fallthrough)) :
    Ends (env.evaluate policy c [f.key] f) A (env.data.AccountsFor f) := by
  have hserve : ∀ {r : Except EvaluationError Detail}, Outcome A EvaluationError.IsLocal r →
      Ends (Run.ofExcept r) A (env.data.AccountsFor f) := by
    intro r h
    exact .ofExcept (h.mono (fun _ ha => ha) fun _ he => he.accountedFor _ _)
  rw [evaluate_eq]
  split
  · exact hserve off
  -- The check comes back to the flag itself, or a flag below it has met a chain that comes back.
  · have hcheck : Ends (env.checkPrerequisites policy c [f.key] f)
        (fun found => ∀ p, found = some p → p ∈ f.prerequisites) (env.data.AccountsFor f) := by
      refine checkPrerequisites_ends ?_ ?_
      · intro p hm hp
        exact ⟨[p.key], .singleton (List.mem_map_of_mem hm), [f.key], rfl, hp⟩
      · intro p hm _ g hg
        have hkey : p.key ∈ f.prerequisiteKeys := List.mem_map_of_mem hm
        have hfirst : env.data.PrerequisiteChain f ([] ++ [p.key]) := .singleton hkey
        have hnested : Ends (env.evaluate policy c [p.key, f.key] g) (fun _ => True)
            (fun e => e.IsContained ∨ ∃ key, e = .circularPrerequisite key ∧
              env.data.PrerequisitesComeBack f key) :=
          evaluate_ends_circular hmem rfl fun next hnext => hfirst.concat hg hnext
        refine hnested.mono (fun _ h => h) ?_
        rintro e he key rfl
        obtain ⟨_, ⟨⟩, hback⟩ := he.resolve_left fun hc => hc key rfl
        exact hback
    refine .bind hcheck fun found hf => ?_
    cases found with
    | some p => exact hserve (unmet p (hf p rfl))
    | none =>
        refine (serveOn_ends_local hmem target rules rest).mono (fun _ h => h) ?_
        rintro e (hlocal | ⟨key, rfl, hback⟩)
        · exact hlocal.accountedFor _ _
        · exact hback

end Environment

/-! ## Details before the evaluation ends

The health is put into the reason at the end of the whole evaluation only. -/

def Detail.withoutHealth (d : Detail) : Detail :=
  { d with reason := { d.reason with bigSegmentsStatus := none } }

namespace Flag

theorem serve_withoutHealth (f : Flag) (index : Int64) {reason : Reason}
    (h : reason.bigSegmentsStatus = none) :
    Outcome (fun d => d.withoutHealth = d) (fun _ => True) (f.serve index reason) := by
  unfold serve
  cases f.variation? index with
  | none => trivial
  | some found =>
      obtain ⟨kind, inExperiment, health⟩ := reason
      cases h
      rfl

theorem serveOff_withoutHealth (f : Flag) (kind : ReasonKind) :
    Outcome (fun d => d.withoutHealth = d) (fun _ => True) (f.serveOff (.plain kind)) := by
  unfold serveOff
  cases f.offVariation with
  | none => rfl
  | some index => exact f.serve_withoutHealth index rfl

theorem serveFor_withoutHealth (f : Flag) (c : Context) (serving : Serving) (kind : ReasonKind) :
    Outcome (fun d => d.withoutHealth = d) (fun _ => True) (f.serveFor c serving kind) := by
  unfold serveFor
  cases serving.variationFor c f.key f.salt with
  | error e => trivial
  | ok served => exact f.serve_withoutHealth served.1 rfl

end Flag

namespace Environment

/-- What a flag comes to, wherever it is evaluated, if whatever it may serve has `A`. -/
theorem evaluate_ends_serving {env : Environment} {policy : EventPolicy} {c : Context}
    {A : Detail → Prop} {f : Flag}
    (off : ∀ kind, kind = .off ∨ (∃ key, kind = .prerequisiteFailed key) →
      Outcome A (fun _ => True) (f.serveOff (.plain kind)))
    (target : ∀ variation, Outcome A (fun _ => True) (f.serve variation (.plain .targetMatch)))
    (rules : ∀ (index : Nat) rule, f.rules[index]? = some rule →
      Outcome A (fun _ => True) (f.serveFor c rule.serving (.ruleMatch index rule.id)))
    (rest : Outcome A (fun _ => True) (f.serveFor c f.fallthrough .fallthrough))
    (path : List String) : Ends (env.evaluate policy c path f) A (fun _ => True) := by
  rw [evaluate_eq]
  split
  · exact .ofExcept (off _ (.inl rfl))
  · refine .bind (.anyhow _) fun unmet _ => ?_
    cases unmet with
    | some p => exact .ofExcept (off _ (.inr ⟨p.key, rfl⟩))
    | none =>
        exact serveOn_ends (fun variation _ => target variation) (fun _ _ => Ends.anyhow _) rules
          rest

theorem evaluate_withoutHealth (env : Environment) (policy : EventPolicy) (c : Context)
    (path : List String) (f : Flag) :
    Ends (env.evaluate policy c path f) (fun d => d.withoutHealth = d) (fun _ => True) :=
  evaluate_ends_serving (fun _ _ => f.serveOff_withoutHealth _)
    (fun variation => f.serve_withoutHealth variation rfl)
    (fun _ _ _ => f.serveFor_withoutHealth c _ _) (f.serveFor_withoutHealth c _ _) path

end Environment

end FeatureFlags
