import FeatureFlags.Proofs.Evaluation.InStep
import FeatureFlags.Proofs.Run.Effect

/-! # What is not looked at in a big segment

The members of a big segment are kept elsewhere, so the lists that stand in the segment itself are
never looked at. What the membership of the context says about the segment (`verdict?`) decides, and
where it says something, the rules of the segment are not looked at either.

Segments that differ in nothing else are seen alike by the context (`SeesAlike`), and data sets that
differ in such segments only cannot be told apart by any evaluation of it
(`evaluateFor_of_seesAlike`). The two evaluations are kept in step with the very same progress on
both sides. That progress has to be coherent, since the verdict is that of the source and the
evaluation sees what has been remembered. -/

namespace FeatureFlags

open Run (exec exec_bind_ok InStep)

namespace Source

def verdict? (source : Source) (c : Context) (s : Segment) : Option Bool := do
  let generation ← s.generation
  let contextKey ← c.key? (s.unboundedContextKind.getD Context.defaultKind)
  let membership ← source.answer contextKey
  Entries.find? (s.generationName generation) membership

/-- The segments are the same but for what is not looked at: the lists of a big segment, and its
rules if the membership of the context knows it. -/
inductive SeesAlike (source : Source) (c : Context) : Segment → Segment → Prop
  | same (s : Segment) : SeesAlike source c s s
  | lists (s : Segment) (included excluded : List String)
      (includedContexts excludedContexts : List SegmentTarget) (hunbounded : s.unbounded = true) :
      SeesAlike source c s { s with included, excluded, includedContexts, excludedContexts }
  | rules (s : Segment) (included excluded : List String)
      (includedContexts excludedContexts : List SegmentTarget) (rules : List SegmentRule)
      (hunbounded : s.unbounded = true) (hknown : (source.verdict? c s).isSome = true) :
      SeesAlike source c s { s with included, excluded, includedContexts, excludedContexts, rules }

def SameCoherent (source : Source) (p q : Progress) : Prop := p = q ∧ source.Coherent p

end Source

/-- A run is in step with itself if it does not spoil what is remembered. -/
theorem Run.InStep.of_coherent {α : Type} {source : Source} {m : Run α}
    (h : ∀ p, source.Coherent p → source.Coherent (exec m p).2) :
    InStep source.SameCoherent m m := by
  rintro p _ ⟨rfl, hp⟩
  exact ⟨rfl, rfl, h p hp⟩

namespace Environment

variable {env : Environment} {source : Source} {inSegment : String → Run Bool} {c : Context}
  {s : Segment}

/-- A big segment is resolved without its lists. -/
theorem resolveSegment_lists (hunbounded : s.unbounded = true) (included excluded : List String)
    (includedContexts excludedContexts : List SegmentTarget) :
    env.resolveSegment inSegment c { s with included, excluded, includedContexts, excludedContexts }
      = env.resolveSegment inSegment c s := by
  rw [resolveSegment, resolveSegment, if_pos hunbounded, if_pos hunbounded]
  rfl

/-- Where the membership knows a big segment, all that is done is to get at the membership. -/
theorem exec_resolveSegment_known (hreads : env.Reads source) (hunbounded : s.unbounded = true)
    {generation : Int64} (hgeneration : s.generation = some generation) {contextKey : String}
    (hkey : c.key? (s.unboundedContextKind.getD Context.defaultKind) = some contextKey)
    {listed : Bool}
    (hfound : (source.answer contextKey).bind (Entries.find? (s.generationName generation))
      = some listed) {p : Progress} (hp : source.Coherent p) :
    exec (env.resolveSegment inSegment c s) p
      = (.ok listed, (exec (env.membership contextKey) p).2) := by
  have hanswer : exec (env.membership contextKey) p
      = (.ok (source.answer contextKey), (exec (env.membership contextKey) p).2) :=
    Prod.ext (hreads.answers contextKey p hp) rfl
  unfold resolveSegment bigSegmentContains
  rw [if_pos hunbounded, hgeneration]
  dsimp only
  rw [hkey]
  dsimp only
  rw [exec_bind_ok hanswer, hfound]
  rfl

section

variable {d₁ d₂ : DataSet} {membership? : String → Option (Membership × BigSegmentsStatus)}

/-- Segments that are seen alike are resolved in step, whatever else the data sets hold. -/
theorem resolvesInStep_of_seesAlike {s₁ s₂ : Segment}
    (h : (Source.mk d₁ membership?).SeesAlike c s₁ s₂) :
    ResolvesInStep (Source.mk d₁ membership?).environment (Source.mk d₂ membership?).environment
      c c (Source.mk d₁ membership?).SameCoherent s₁ s₂ := by
  intro in₁ in₂ hin
  have hreads₁ := (Source.mk d₁ membership?).environment_reads
  have hreads₂ := (Source.mk d₂ membership?).environment_reads
  have hsame : InStep _ ((Source.mk d₁ membership?).environment.resolveSegment in₁ c s₁)
      ((Source.mk d₂ membership?).environment.resolveSegment in₂ c s₁) :=
    resolveSegment_inStep hin (.refl c s₁)
      (fun _ => .of_coherent fun p hp => hp.of_memberships_eq rfl)
      (fun contextKey => .of_coherent (hreads₁.coherent contextKey))
  cases h with
  | same => exact hsame
  | lists included excluded includedContexts excludedContexts hunbounded =>
      have hlists : (Source.mk d₂ membership?).environment.resolveSegment in₂ c
            { s₁ with included, excluded, includedContexts, excludedContexts }
          = (Source.mk d₂ membership?).environment.resolveSegment in₂ c s₁ :=
        resolveSegment_lists hunbounded _ _ _ _
      rw [hlists]
      exact hsame
  | rules included excluded includedContexts excludedContexts rules hunbounded hknown =>
      obtain ⟨listed, hverdict⟩ := Option.isSome_iff_exists.mp hknown
      obtain ⟨generation, hgeneration, hverdict⟩ := Option.bind_eq_some_iff.mp hverdict
      obtain ⟨contextKey, hkey, hfound⟩ := Option.bind_eq_some_iff.mp hverdict
      -- Neither run comes to the rules, so the segments they name do not matter.
      let s₂ : Segment :=
        { s₁ with included, excluded, includedContexts, excludedContexts, rules }
      rintro p _ ⟨rfl, hp⟩
      have hrun₁ : exec ((Source.mk d₁ membership?).environment.resolveSegment in₁ c s₁) p = _ :=
        exec_resolveSegment_known hreads₁ hunbounded hgeneration hkey hfound hp
      have hrun₂ : exec ((Source.mk d₂ membership?).environment.resolveSegment in₂ c s₂) p = _ :=
        exec_resolveSegment_known (s := s₂) hreads₂ hunbounded hgeneration hkey hfound hp
      rw [hrun₁, hrun₂]
      exact ⟨rfl, rfl, hreads₁.coherent contextKey p hp⟩

/-- **Big segments ignore their own lists.** Data sets that hold the same flags, and segments that
are the same but for the lists of big segments and the rules of those that the membership of the
context knows, are the same to every evaluation of the context. -/
theorem evaluateFor_of_seesAlike (d₁ d₂ : DataSet)
    (membership? : String → Option (Membership × BigSegmentsStatus)) (policy : EventPolicy)
    (f : Option Flag) (c : Context)
    (hflags : ∀ key, Entries.find? key d₁.flags = Entries.find? key d₂.flags)
    (hsegments : ∀ key, Option.Rel ((Source.mk d₁ membership?).SeesAlike c)
      (Entries.find? key d₁.segments) (Entries.find? key d₂.segments)) :
    (Source.mk d₁ membership?).environment.evaluateFor policy f c
      = (Source.mk d₂ membership?).environment.evaluateFor policy f c := by
  cases f with
  | none => rfl
  | some f =>
      have hkeeps : KeepsInStep (Source.mk d₁ membership?).environment
          (Source.mk d₂ membership?).environment policy c c
          (Source.mk d₁ membership?).SameCoherent :=
        { ask := fun _ => .of_coherent fun p hp => hp.of_memberships_eq rfl
          report := fun _ _ _ => .of_coherent fun p hp => hp.of_memberships_eq rfl
          segments := by
            intro key
            have hstored := hsegments key
            show Option.Rel _ (Entries.find? key d₁.segments) (Entries.find? key d₂.segments)
            generalize Entries.find? key d₁.segments = stored₁ at hstored ⊢
            generalize Entries.find? key d₂.segments = stored₂ at hstored ⊢
            -- The key is stored on both sides or on neither.
            cases hstored with
            | none => exact .none
            | some hseen => exact .some (resolvesInStep_of_seesAlike hseen)
          flags := hflags
          treatsAlike := fun _ g _ => .refl c g }
      obtain ⟨houtcome, hprogress, -⟩ := evaluate_inStep hkeeps [f.key] (.refl c f) .start .start
        ⟨rfl, (Source.mk d₁ membership?).coherent_start⟩
      rw [evaluateFor_some, evaluateFor_some, houtcome, hprogress]

/-- Of two big segments, the membership knows one; that one lists the context and has a rule on a
segment that names itself in the one data set only. The other one, which a plain segment names,
lists the context in the one data set and excludes it in the other. -/
theorem evaluateFor_of_seesAlike_nested :
    let naming (key : String) : Clause := ⟨none, none, .segmentMatch, [.string key], false⟩
    let rule (key : String) : SegmentRule := ⟨none, [naming key], none, none, none⟩
    let big (key : String) (included excluded : List String) (rules : List SegmentRule) : Segment :=
      ⟨key, 1, "", included, excluded, [], [], rules, true, some 2, none⟩
    let plain : Segment := ⟨"plain", 1, "", [], ["v"], [], [], [rule "silent"], false, none, none⟩
    let d₁ : DataSet := ⟨[], [("known", big "known" ["u"] [] [rule "known"]),
      ("silent", big "silent" ["u"] [] [rule "known"]), ("plain", plain)]⟩
    let d₂ : DataSet := ⟨[], [("known", big "known" [] [] []),
      ("silent", big "silent" [] ["u"] [rule "known"]), ("plain", plain)]⟩
    let membership? (_ : String) : Option (Membership × BigSegmentsStatus) :=
      some ([("known.g2", false)], .healthy)
    let f : Flag := { Flag.named "f" [] with rules := [⟨none, [naming "plain"], .fixed 0, false⟩] }
    let c : Context := ⟨[("key", .string "u")], true⟩
    (∀ key, Option.Rel ((Source.mk d₁ membership?).SeesAlike c)
      (Entries.find? key d₁.segments) (Entries.find? key d₂.segments)) ∧
    (Source.mk d₁ membership?).environment.evaluateFor default (some f) c
      = (Source.mk d₂ membership?).environment.evaluateFor default (some f) c := by
  intro naming rule big plain d₁ d₂ membership? f c
  have hsegments : ∀ key, Option.Rel ((Source.mk d₁ membership?).SeesAlike c)
      (Entries.find? key d₁.segments) (Entries.find? key d₂.segments) := by
    intro key
    refine Entries.rel_find?_cons (.rules _ _ _ _ _ _ rfl ?_) ?_
    · decide +kernel
    · exact Entries.rel_find?_cons (.lists _ _ _ _ _ rfl) (Entries.rel_find?_cons (.same _) .none)
  exact ⟨hsegments, evaluateFor_of_seesAlike d₁ d₂ membership? default (some f) c (fun _ => rfl)
    hsegments⟩

end

end Environment
end FeatureFlags
