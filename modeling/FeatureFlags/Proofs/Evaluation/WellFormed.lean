import FeatureFlags.Proofs.Evaluation.Ending

/-! # Well-formed data

A flag is well-formed if whatever it may serve is there and whatever it reads has a valid reference;
a segment has only the latter to mind. If besides no chain of references comes back to a key, the
evaluation of the flag cannot fail (`evaluateFor_of_wellFormed`). Of the flags of prerequisites
nothing is asked: what goes wrong in them stops the flag, but is no error of it.

The argument follows the evaluation with the rules of `Run.Ends`. The invariant of a path is that it
makes, with each chain that goes on from it, a chain without repetition. References to what is not
stored are allowed: a prerequisite that is not stored is not met, and nobody belongs to a segment
that is not stored. -/

namespace FeatureFlags

open Run (Ends)

/-! ## Well-formed flags and segments

All conditions can be decided. Unless a variation is fixed there must be a rollout with shares. A
rollout has its shares for variations that are there, and what it buckets by is a valid reference,
unless it is an experiment, which does not read that reference. -/

def Flag.InRange (f : Flag) (index : Int64) : Prop :=
  0 ≤ index.toInt ∧ index.toInt < f.variations.length

/-- What is served is a variation of the flag: the fixed one, or one of the shares of a rollout. -/
structure Serving.WellFormed (s : Serving) (f : Flag) : Prop where
  serves : s.variation ≠ none ∨ ∃ r ∈ s.rollout, r.shares ≠ []
  variation : ∀ index ∈ s.variation, f.InRange index
  shares : ∀ r ∈ s.rollout, ∀ share ∈ r.shares, f.InRange share.variation
  bucketBy : ∀ r ∈ s.rollout, r.kind ≠ .experiment →
    ∀ reference ∈ r.bucketBy, reference.isValid = true

/-- A clause that names no segments has a valid reference. -/
def Clause.WellFormed (clause : Clause) : Prop :=
  clause.op ≠ .segmentMatch → ∃ reference ∈ clause.reference, reference.isValid = true

/-- Whatever the flag may serve is there. -/
structure Flag.WellFormed (f : Flag) : Prop where
  offVariation : ∀ index ∈ f.offVariation, f.InRange index
  targets : ∀ t ∈ f.targets, f.InRange t.variation
  contextTargets : ∀ t ∈ f.contextTargets, f.InRange t.variation
  rules : ∀ rule ∈ f.rules, rule.serving.WellFormed f
  clauses : ∀ rule ∈ f.rules, ∀ clause ∈ rule.clauses, clause.WellFormed
  fallthrough : f.fallthrough.WellFormed f

/-- Whatever the rules of the segment read has a valid reference. -/
structure Segment.WellFormed (s : Segment) : Prop where
  clauses : ∀ rule ∈ s.rules, ∀ clause ∈ rule.clauses, clause.WellFormed
  bucketBy : ∀ rule ∈ s.rules, ∀ reference ∈ rule.bucketBy, reference.isValid = true

instance (f : Flag) (index : Int64) : Decidable (f.InRange index) :=
  inferInstanceAs (Decidable (_ ∧ _))

-- Without this one all indices would be tried, as there are only finitely many.
instance Flag.decidableForallInRange (f : Flag) (index? : Option Int64) :
    Decidable (∀ index ∈ index?, f.InRange index) :=
  index?.decidableForallMem

instance (clause : Clause) : Decidable clause.WellFormed := inferInstanceAs (Decidable (_ → _))

instance (s : Serving) (f : Flag) : Decidable (s.WellFormed f) :=
  decidable_of_iff (_ ∧ _ ∧ _ ∧ _)
    ⟨fun h => ⟨h.1, h.2.1, h.2.2.1, h.2.2.2⟩, fun h => ⟨h.1, h.2, h.3, h.4⟩⟩

instance (f : Flag) : Decidable f.WellFormed :=
  decidable_of_iff (_ ∧ _ ∧ _ ∧ _ ∧ _ ∧ _)
    ⟨fun h => ⟨h.1, h.2.1, h.2.2.1, h.2.2.2.1, h.2.2.2.2.1, h.2.2.2.2.2⟩,
      fun h => ⟨h.1, h.2, h.3, h.4, h.5, h.6⟩⟩

instance (s : Segment) : Decidable s.WellFormed :=
  decidable_of_iff (_ ∧ _) ⟨fun h => ⟨h.1, h.2⟩, fun h => ⟨h.1, h.2⟩⟩

/-! ## Serving cannot fail

A share that is picked is one of the shares, whatever the bucket is. -/

/-- The default of `bucketBy` is a valid reference. -/
theorem Reference.isValid_getD_key {bucketBy : Option Reference}
    (h : ∀ reference ∈ bucketBy, reference.isValid = true) :
    (bucketBy.getD ⟨"key"⟩).isValid = true := by
  cases bucketBy with
  | none => decide
  | some reference => exact h reference rfl

theorem pick_mem {α β : Type} [Add α] [LT α] [DecidableLT α] {length : β → α} {point start : α}
    {bs : List β} {b : β} (h : pick length point start bs = some b) : b ∈ bs := by
  induction bs generalizing start with
  | nil => cases h
  | cons first rest ih =>
      unfold pick at h
      split at h
      · cases h
        exact List.mem_cons_self
      · exact List.mem_cons_of_mem first (ih h)

theorem Rollout.shareAt_mem {r : Rollout} {last : Share} (h : last ∈ r.shares) (bucket : Float) :
    r.shareAt last bucket ∈ r.shares := by
  unfold shareAt
  cases hp : pick (fun s : Share => s.weight / weightScale) bucket 0 r.shares with
  | none => exact h
  | some share => exact pick_mem hp

theorem Rollout.bucketReference_isValid {r : Rollout}
    (h : r.kind ≠ .experiment → ∀ reference ∈ r.bucketBy, reference.isValid = true) :
    r.bucketReference.isValid = true := by
  unfold bucketReference
  split
  · decide
  · next hkind => exact Reference.isValid_getD_key (h hkind)

/-- A well-formed serving comes to a variation of its flag. -/
theorem Serving.WellFormed.variationFor {s : Serving} {f : Flag} (h : s.WellFormed f) (c : Context)
    (key salt : String) :
    Outcome (fun served => f.InRange served.1) (fun _ => False) (s.variationFor c key salt) := by
  obtain ⟨variation, rollout⟩ := s
  cases variation with
  | some index => exact h.variation index rfl
  | none =>
      obtain ⟨r, hr, hshares⟩ := h.serves.resolve_left fun hne => hne rfl
      cases hr
      have hlast : r.shares.getLast? = some (r.shares.getLast hshares) :=
        List.getLast?_eq_some_getLast hshares
      have hvalid : r.bucketReference.isValid = true :=
        Rollout.bucketReference_isValid (h.bucketBy r rfl)
      unfold Serving.variationFor
      simp only [hlast, hvalid, if_true]
      exact h.shares r rfl _ (Rollout.shareAt_mem (List.getLast_mem hshares) _)

namespace Flag

variable {f : Flag} {reason : Reason}

theorem InRange.serve {index : Int64} (h : f.InRange index) (hr : reason.isError = false) :
    Outcome (fun d => d.isError = false) (fun _ => False) (f.serve index reason) := by
  obtain ⟨hpos, hlt⟩ := h
  have hplace : index.toInt.toNat < f.variations.length := by omega
  have hget := List.getElem?_eq_getElem hplace
  unfold Flag.serve variation?
  rw [if_neg (by omega), hget]
  exact hr

theorem WellFormed.serveOff (h : f.WellFormed) (hr : reason.isError = false) :
    Outcome (fun d => d.isError = false) (fun _ => False) (f.serveOff reason) := by
  unfold Flag.serveOff
  cases ho : f.offVariation with
  | none => exact hr
  | some index => exact (h.offVariation index ho).serve hr

theorem serveFor_of_wellFormed {serving : Serving} (h : serving.WellFormed f) (c : Context)
    {kind : ReasonKind} (hk : ∀ inExperiment, (Reason.tracked kind inExperiment).isError = false) :
    Outcome (fun d => d.isError = false) (fun _ => False) (f.serveFor c serving kind) := by
  have hserved := h.variationFor c f.key f.salt
  unfold Flag.serveFor
  cases hv : serving.variationFor c f.key f.salt with
  | error e =>
      rw [hv] at hserved
      exact hserved
  | ok served =>
      rw [hv] at hserved
      exact hserved.serve (hk served.2)

/-- A target that lists the context is one of the flag's. -/
theorem WellFormed.targetVariation? (h : f.WellFormed) {c : Context} {index : Int64}
    (ht : f.targetVariation? c = some index) : f.InRange index := by
  unfold Flag.targetVariation? at ht
  split at ht
  · obtain ⟨t, hfound, rfl⟩ := Option.map_eq_some_iff.mp ht
    exact h.targets t (List.mem_of_find?_eq_some hfound)
  · obtain ⟨t, hfound, rfl⟩ := Option.map_eq_some_iff.mp ht
    exact h.contextTargets t (List.mem_of_find?_eq_some hfound)

end Flag

/-! ## Matching cannot fail

Clauses and rules of segments have nothing to fail with but the references that they read. -/

theorem Clause.WellFormed.failsWith {clause : Clause} (h : clause.WellFormed) (c : Context) :
    clause.FailsWith c fun _ => False := by
  intro hop
  obtain ⟨reference, hr, hvalid⟩ := h hop
  rw [Option.mem_def] at hr
  unfold Clause.holdsFor
  simp only [hr, hvalid, Bool.not_true, Bool.false_eq_true, if_false]
  split
  · trivial
  · split <;> trivial

theorem Segment.WellFormed.failsWith {s : Segment} (h : s.WellFormed) {rule : SegmentRule}
    (hr : rule ∈ s.rules) (c : Context) : rule.FailsWith s c fun _ => False := by
  refine ⟨fun clause hc => (h.clauses rule hr clause hc).failsWith c, ?_⟩
  have hvalid := Reference.isValid_getD_key (h.bucketBy rule hr)
  unfold SegmentRule.sharesWith
  cases rule.weight with
  | none => trivial
  | some weight =>
      simp only [hvalid, if_true]
      trivial

/-! ## Chains along a path

A path is the reverse of the chain that has led to its end, and the chains that go on from there
extend it. -/

/-- A path and what may follow it: the path is the other way round. -/
theorem reverse_cons_append (key : String) (path keys : List String) :
    (key :: path).reverse ++ keys = path.reverse ++ key :: keys := by
  rw [List.reverse_cons, List.append_assoc, List.singleton_append]

theorem not_mem_of_nodup_append {key : String} {path keys : List String}
    (h : (path.reverse ++ key :: keys).Nodup) : key ∉ path := by
  intro hp
  obtain ⟨-, -, hdisjoint⟩ := List.nodup_append.mp h
  exact hdisjoint key (List.mem_reverse.mpr hp) key List.mem_cons_self rfl

namespace Environment

variable {source : Source} {policy : EventPolicy} {c : Context} {f : Flag}

/-- Over well-formed segments without circular chains, looking for a context cannot fail. -/
theorem inSegment_of_wellFormed
    (hs : ∀ key s, Entries.find? key source.data.segments = some s → s.WellFormed)
    (hacyclic : ∀ keys, source.data.SegmentChain keys → keys.Nodup) (key : String) :
    Ends (source.environment.inSegment c [] key) (fun _ => True) (fun _ => False) := by
  refine inSegment_ends source.environment_available
    (fun path key => ∀ keys, source.data.SegmentChain (key :: keys) →
      (path.reverse ++ key :: keys).Nodup) ?_ ?_ ?_ [] key fun keys h => hacyclic _ h
  · intro path key h hp
    exact not_mem_of_nodup_append (h [] .singleton) hp
  · intro key s hfound rule hr
    exact (hs key s hfound).failsWith hr c
  · intro path key s h _ hfound next hnext keys hchain
    rw [reverse_cons_append]
    exact h (next :: keys) (hchain.cons hfound hnext)

/-- Below a flag that begins no circular chain, no circular path is met. -/
theorem evaluate_of_acyclic {path : List String}
    (h : ∀ keys, source.data.PrerequisiteChain f keys → (path.reverse ++ keys).Nodup) :
    Ends (source.environment.evaluate policy c path f) (fun _ => True)
      EvaluationError.IsContained := by
  refine (evaluate_ends (E := fun _ => False) source.environment_available
    (fun path f => ∀ keys, source.data.PrerequisiteChain f keys → (path.reverse ++ keys).Nodup)
    ?_ ?_ path f h).mono (fun _ ha => ha) fun e he => he.resolve_right id
  · intro path f h p hm hp
    have hkey : p.key ∈ f.prerequisiteKeys := List.mem_map_of_mem hm
    exact not_mem_of_nodup_append (h [p.key] (.singleton hkey)) hp
  · intro path f h p hm _ g hg keys hchain
    have hkey : p.key ∈ f.prerequisiteKeys := List.mem_map_of_mem hm
    rw [reverse_cons_append]
    exact h (p.key :: keys) (hchain.cons hkey hg)

/-- The evaluation of a well-formed flag comes to a detail that is no error. -/
theorem evaluate_of_wellFormed (hf : f.WellFormed)
    (hs : ∀ key s, Entries.find? key source.data.segments = some s → s.WellFormed)
    (hd : source.data.Acyclic f) :
    Ends (source.environment.evaluate policy c [f.key] f) (fun d => d.isError = false)
      (fun _ => False) := by
  have hoff : ∀ kind, (Reason.plain kind).isError = false →
      Ends (Run.ofExcept (f.serveOff (.plain kind))) (fun d => d.isError = false)
        (fun _ => False) :=
    fun kind hkind => .ofExcept (hf.serveOff hkind)
  rw [evaluate_eq]
  split
  · exact hoff .off rfl
  · have hpath : ∀ keys, source.data.PrerequisiteChain f keys → ([f.key].reverse ++ keys).Nodup :=
      hd.prerequisites
    -- Errors of prerequisites are contained, so all that matters is that no path is circular.
    have hcheck : Ends (source.environment.checkPrerequisites policy c [f.key] f)
        (fun unmet => ∀ p, unmet = some p → p ∈ f.prerequisites) (fun _ => False) := by
      refine checkPrerequisites_ends ?_ ?_
      · intro p hm hp
        have hkey : p.key ∈ f.prerequisiteKeys := List.mem_map_of_mem hm
        exact not_mem_of_nodup_append (hpath [p.key] (.singleton hkey)) hp
      · intro p hm _ g hg
        have hkey : p.key ∈ f.prerequisiteKeys := List.mem_map_of_mem hm
        have hnested : Ends (source.environment.evaluate policy c [p.key, f.key] g) (fun _ => True)
            EvaluationError.IsContained :=
          evaluate_of_acyclic fun keys hchain =>
            hpath (p.key :: keys) (hchain.cons hkey hg)
        exact hnested.mono (fun _ _ => trivial) fun e he key hk => he key hk
    refine .bind hcheck fun unmet _ => ?_
    cases unmet with
    | some p => exact hoff (.prerequisiteFailed p.key) rfl
    | none =>
        refine serveOn_ends ?_ ?_ ?_ ?_
        · intro index ht
          exact (hf.targetVariation? ht).serve rfl
        · intro rule hr
          refine clausesHold_ends (fun clause hc => (hf.clauses rule hr clause hc).failsWith c) ?_
          intro _ _ key _
          exact inSegment_of_wellFormed hs hd.segments key
        · intro index rule hrule
          exact Flag.serveFor_of_wellFormed (hf.rules rule (List.mem_of_getElem? hrule)) c
            fun _ => rfl
        · exact Flag.serveFor_of_wellFormed hf.fallthrough c fun _ => rfl

end Environment

/-- **Well-formed data never yields an error.** Whatever the memberships and the context are, the
evaluation of a well-formed flag over well-formed segments reports no error, if no chain of
references comes back to a key. Keys of which nothing is stored only end such a chain. -/
theorem Environment.evaluateFor_of_wellFormed (source : Source) (policy : EventPolicy) (c : Context)
    (f : Flag) (hf : f.WellFormed)
    (hs : ∀ key s, Entries.find? key source.data.segments = some s → s.WellFormed)
    (hd : source.data.Acyclic f) :
    (source.environment.evaluateFor policy (some f) c).error = none ∧
      (source.environment.evaluateFor policy (some f) c).detail.isError = false := by
  have hends : Outcome (fun d => d.isError = false) (fun _ => False)
      (Run.exec (source.environment.evaluate policy c [f.key] f) .start).1 :=
    evaluate_of_wellFormed hf hs hd .start
  rw [evaluateFor_some]
  cases hrun : (Run.exec (source.environment.evaluate policy c [f.key] f) .start).1 with
  | ok d =>
      rw [hrun] at hends
      exact ⟨rfl, hends⟩
  | error e =>
      rw [hrun] at hends
      exact hends.elim

/-- A flag with a prerequisite and with a rule that names a segment, which names another one. -/
theorem Environment.evaluateFor_of_wellFormed_nested :
    let names := fun key : String => Clause.mk none none .segmentMatch [.string key] false
    let reads : Clause := ⟨none, some ⟨"/address/city"⟩, .isIn, [.string "Bonn"], false⟩
    let rule := fun clause : Clause => SegmentRule.mk none [clause] none (some ⟨"/address"⟩) none
    let segment := fun (key : String) (clause : Clause) =>
      Segment.mk key 1 "" [] [] [] [] [rule clause] false none none
    let segments : Entries Segment :=
      [("outer", segment "outer" (names "inner")), ("inner", segment "inner" reads)]
    let source : Source := ⟨⟨[("g", .named "g" [])], segments⟩, fun _ => none⟩
    let spread : Serving := .spread ⟨.rollout, none, none, none, [⟨0, 1, false⟩]⟩
    let f : Flag := { Flag.named "f" [⟨"g", 0⟩] with
      rules := [⟨none, [names "outer"], spread, false⟩] }
    let c : Context := ⟨[("key", .string "u")], true⟩
    f.WellFormed ∧
      (∀ key s, Entries.find? key source.data.segments = some s → s.WellFormed) ∧
      source.data.Acyclic f ∧ (source.environment.evaluateFor default (some f) c).error = none ∧
      (source.environment.evaluateFor default (some f) c).detail.isError = false := by
  intro names reads rule segment segments source spread f c
  have hf : f.WellFormed := by decide +kernel
  have hall : ∀ e ∈ source.data.segments, e.2.WellFormed := by decide +kernel
  have hs : ∀ key s, Entries.find? key source.data.segments = some s → s.WellFormed :=
    fun key s h => hall (key, s) (Entries.mem_of_find? h)
  have hd : source.data.Acyclic f :=
    DataSet.acyclic_of_ranks (fun key => if key = "f" then 1 else 0)
      (fun key => if key = "outer" then 1 else 0) (by decide +kernel) (by decide +kernel)
      (by decide +kernel)
  exact ⟨hf, hs, hd, evaluateFor_of_wellFormed source default c f hf hs hd⟩

end FeatureFlags
