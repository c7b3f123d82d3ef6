import FeatureFlags.Proofs.Evaluation.Reordering
import FeatureFlags.Proofs.Evaluation.Effect
import FeatureFlags.Proofs.Run.Concur

/-! # The order of clauses, values, rules and keys

Clauses, the values of a clause and the rules of a segment are looked at one after the other, up to
the first that settles the matter. Their order says what is looked at, what is remembered and
whether an error is met.

It does not say what the answer is: data sets that hold the same segments but for the order of these
lists, and of the lists of keys, never give different answers (`matching_of_rearranged`). One of the
two may fail where the other gives an answer, as it meets an error that the other does not come to;
and they may ask different questions. -/

namespace FeatureFlags

open Run (exec Concur)

/-! ## The same in another order

From the inside out: clauses with other values, rules with other clauses, segments with other rules.
At each level the items may have changed places as well. -/

/-- The clauses are the same but for the order of the values. -/
inductive Clause.Rearranged : Clause → Clause → Prop
  | intro (clause : Clause) (values : List Json) (hvalues : clause.values.Perm values) :
      Rearranged clause { clause with values }

inductive SegmentTarget.Rearranged : SegmentTarget → SegmentTarget → Prop
  | intro (t : SegmentTarget) (values : List String) (hvalues : t.values.Perm values) :
      Rearranged t { t with values }

inductive SegmentRule.Rearranged : SegmentRule → SegmentRule → Prop
  | intro (rule : SegmentRule) (clauses : List Clause)
      (hclauses : FeatureFlags.Rearranged Clause.Rearranged rule.clauses clauses) :
      Rearranged rule { rule with clauses }

/-- The segments are the same but for the order of keys, targets, rules, clauses and values. -/
inductive Segment.Rearranged : Segment → Segment → Prop
  | intro (s : Segment) (included excluded : List String)
      (includedContexts excludedContexts : List SegmentTarget) (rules : List SegmentRule)
      (hincluded : s.included.Perm included) (hexcluded : s.excluded.Perm excluded)
      (hincludedContexts :
        FeatureFlags.Rearranged SegmentTarget.Rearranged s.includedContexts includedContexts)
      (hexcludedContexts :
        FeatureFlags.Rearranged SegmentTarget.Rearranged s.excludedContexts excludedContexts)
      (hrules : FeatureFlags.Rearranged SegmentRule.Rearranged s.rules rules) :
      Rearranged s { s with included, excluded, includedContexts, excludedContexts, rules }

theorem Clause.Rearranged.refl (clause : Clause) : clause.Rearranged clause :=
  .intro clause _ (.refl _)

theorem SegmentTarget.Rearranged.refl (t : SegmentTarget) : t.Rearranged t :=
  .intro t _ (.refl _)

theorem SegmentRule.Rearranged.refl (rule : SegmentRule) : rule.Rearranged rule :=
  .intro rule _ (.refl Clause.Rearranged.refl _)

theorem Segment.Rearranged.refl (s : Segment) : s.Rearranged s :=
  .intro s _ _ _ _ _ (.refl _) (.refl _) (.refl SegmentTarget.Rearranged.refl _)
    (.refl SegmentTarget.Rearranged.refl _) (.refl SegmentRule.Rearranged.refl _)

/-! ## What is answered without segments

Lists of keys and values are searched through, so their order does not count at all. -/

theorem Rearranged.any_eq {α : Type} {R : α → α → Prop} {p : α → Bool} {xs ys : List α}
    (h : Rearranged R xs ys) (hp : ∀ x y, R x y → p x = p y) : xs.any p = ys.any p := by
  obtain ⟨between, hperm, hrelated⟩ := h
  rw [hperm.any_eq, any_eq_of_forall₂ hrelated hp]

theorem Clause.Rearranged.holdsFor_eq {clause₁ clause₂ : Clause} (h : clause₁.Rearranged clause₂)
    (c : Context) : clause₁.holdsFor c = clause₂.holdsFor c := by
  obtain ⟨values, hvalues⟩ := h
  have hvalue : clause₁.matchesValue = { clause₁ with values }.matchesValue := by
    funext v
    exact hvalues.any_eq
  have hattribute : clause₁.matchesAttribute? = { clause₁ with values }.matchesAttribute? := by
    funext found
    unfold matchesAttribute?
    rw [hvalue]
  unfold holdsFor
  rw [hvalue, hattribute]

theorem Context.listedIn_rearranged {c : Context} {keys₁ keys₂ : List String}
    {targets₁ targets₂ : List SegmentTarget} (hkeys : keys₁.Perm keys₂)
    (htargets : Rearranged SegmentTarget.Rearranged targets₁ targets₂) :
    c.listedIn keys₁ targets₁ = c.listedIn keys₂ targets₂ := by
  have hkeyIn : ∀ kind {keys₁ keys₂ : List String}, keys₁.Perm keys₂ →
      c.keyIn kind keys₁ = c.keyIn kind keys₂ := by
    intro kind keys₁ keys₂ hperm
    unfold keyIn
    congr 1
    funext key
    exact hperm.contains_eq
  unfold listedIn
  rw [hkeyIn _ hkeys]
  congr 1
  refine htargets.any_eq ?_
  rintro t _ ⟨values, hvalues⟩
  exact hkeyIn _ hvalues

theorem Segment.Rearranged.listed?_eq {s₁ s₂ : Segment} (h : s₁.Rearranged s₂) (c : Context) :
    s₁.listed? c = s₂.listed? c := by
  cases h with
  | intro included excluded includedContexts excludedContexts rules hincluded hexcluded
      hincludedContexts hexcludedContexts =>
      unfold listed?
      rw [Context.listedIn_rearranged hincluded hincludedContexts,
        Context.listedIn_rearranged hexcluded hexcludedContexts]

/-! ## What is answered over segments

Walks along clauses and rules concur, as long as looking for the context in other segments does. -/

namespace Environment

variable {source : Source} {env₁ env₂ : Environment} {in₁ in₂ : String → Run Bool} {c : Context}

section

variable (hin : ∀ key, Concur source (in₁ key) (in₂ key))

include hin

theorem clauseHolds_concur {clause₁ clause₂ : Clause} (h : clause₁.Rearranged clause₂) :
    Concur source (clauseHolds in₁ c clause₁) (clauseHolds in₂ c clause₂) := by
  have hholds := h.holdsFor_eq c
  obtain ⟨values, hvalues⟩ := h
  unfold clauseHolds
  by_cases hop : clause₁.op = .segmentMatch
  · rw [if_pos hop, if_pos hop]
    have hkeys : Rearranged Eq (clause₁.values.filterMap Json.text?)
        (values.filterMap Json.text?) := .of_perm (hvalues.filterMap _)
    refine .bind (.anyM hkeys ?_) fun matched => .pure _
    rintro key _ rfl
    exact hin key
  · rw [if_neg hop, if_neg hop, hholds]
    exact .ofExcept _

theorem clausesHold_concur {clauses₁ clauses₂ : List Clause}
    (h : Rearranged Clause.Rearranged clauses₁ clauses₂) :
    Concur source (clausesHold in₁ c clauses₁) (clausesHold in₂ c clauses₂) :=
  .allM h fun _ _ hclause => clauseHolds_concur hin hclause

theorem segmentRulesHold_concur {s₁ s₂ : Segment} (h : s₁.Rearranged s₂) :
    Concur source (segmentRulesHold in₁ c s₁) (segmentRulesHold in₂ c s₂) := by
  obtain ⟨included, excluded, includedContexts, excludedContexts, rules, -, -, -, -, hrules⟩ := h
  refine .anyM hrules ?_
  rintro rule _ ⟨clauses, hclauses⟩
  refine .bind (clausesHold_concur hin hclauses) fun holds => ?_
  cases holds with
  | true => exact .ofExcept _
  | false => exact .pure false

theorem resolveSegment_concur {s₁ s₂ : Segment} (h : s₁.Rearranged s₂)
    (hmembership : ∀ contextKey,
      Concur source (env₁.membership contextKey) (env₂.membership contextKey)) :
    Concur source (env₁.resolveSegment in₁ c s₁) (env₂.resolveSegment in₂ c s₂) := by
  have hunbounded : s₁.unbounded = s₂.unbounded := by cases h; rfl
  have hgeneration : s₁.generation = s₂.generation := by cases h; rfl
  have hkind : s₁.unboundedContextKind = s₂.unboundedContextKind := by cases h; rfl
  have hname : s₁.generationName = s₂.generationName := by cases h; rfl
  have hrules := segmentRulesHold_concur (c := c) hin h
  unfold resolveSegment
  rw [hunbounded]
  split
  · unfold bigSegmentContains
    rw [hgeneration, hkind, hname]
    cases s₂.generation with
    | none => exact .bind (.mergeStatus _) fun _ => .pure false
    | some generation =>
        cases c.key? (s₂.unboundedContextKind.getD Context.defaultKind) with
        | none => exact .pure false
        | some contextKey =>
            refine .bind (hmembership contextKey) fun membership => ?_
            cases membership.bind (Entries.find? (s₂.generationName generation)) with
            | some included => exact .pure included
            | none => exact hrules
  · unfold segmentContains
    rw [h.listed?_eq c]
    cases s₂.listed? c with
    | some listed => exact .pure listed
    | none => exact hrules

end

/-! ## Over stored segments

By induction over what is left of the stored keys: both walks go along the same path. -/

/-- Over data that hold the same segments but for order, looking for the context in a segment never
gives different answers. -/
theorem inSegment_concur
    (hsegments : ∀ key, Option.Rel Segment.Rearranged (Entries.find? key env₁.data.segments)
      (Entries.find? key env₂.data.segments))
    (hmembership : ∀ contextKey,
      Concur source (env₁.membership contextKey) (env₂.membership contextKey))
    (c : Context) (path : List String) (key : String) :
    Concur source (env₁.inSegment c path key) (env₂.inSegment c path key) := by
  induction path using env₁.data.segments.induction_off_path generalizing key with
  | step path ih =>
      rw [inSegment_eq, inSegment_eq, lookUpSegment, lookUpSegment]
      by_cases hp : key ∈ path
      · rw [if_pos hp, if_pos hp]
        exact .throw _
      · rw [if_neg hp, if_neg hp]
        refine .bind (.ask _) fun _ => ?_
        have hstored := hsegments key
        generalize hs₁ : Entries.find? key env₁.data.segments = stored₁ at hstored ⊢
        generalize Entries.find? key env₂.data.segments = stored₂ at hstored ⊢
        cases hstored with
        | none => exact .pure false
        | some hrearranged =>
            exact resolveSegment_concur (ih key _ hp hs₁) hrearranged hmembership

/-- **Order does not decide.** Let two data sets hold the same segments but for the order of keys,
targets, rules, clauses and values. Whatever evaluations have gathered, which is always coherent
(`Environment.Reads.foldl_act`), and whichever segments they are looking at, clauses in another
order, a clause with its values in another order and a segment are answered alike from both, unless
one of the two answers is an error. -/
theorem matching_of_rearranged (d₁ d₂ : DataSet)
    (membership? : String → Option (Membership × BigSegmentsStatus)) (c : Context)
    (path : List String) (p₁ p₂ : Progress)
    (hsegments : ∀ key, Option.Rel Segment.Rearranged (Entries.find? key d₁.segments)
      (Entries.find? key d₂.segments))
    (hp₁ : (Source.mk d₁ membership?).Coherent p₁) (hp₂ : (Source.mk d₂ membership?).Coherent p₂) :
    let in₁ := (Source.mk d₁ membership?).environment.inSegment c path
    let in₂ := (Source.mk d₂ membership?).environment.inSegment c path
    (∀ clauses₁ clauses₂ b₁ b₂, Rearranged Clause.Rearranged clauses₁ clauses₂ →
      (exec (clausesHold in₁ c clauses₁) p₁).1 = .ok b₁ →
      (exec (clausesHold in₂ c clauses₂) p₂).1 = .ok b₂ → b₁ = b₂) ∧
    (∀ clause₁ clause₂ b₁ b₂, clause₁.Rearranged clause₂ →
      (exec (clauseHolds in₁ c clause₁) p₁).1 = .ok b₁ →
      (exec (clauseHolds in₂ c clause₂) p₂).1 = .ok b₂ → b₁ = b₂) ∧
    ∀ key b₁ b₂, (exec (in₁ key) p₁).1 = .ok b₁ → (exec (in₂ key) p₂).1 = .ok b₂ → b₁ = b₂ := by
  intro in₁ in₂
  have hin : ∀ key, Concur ⟨d₁, membership?⟩ (in₁ key) (in₂ key) := by
    intro key
    refine inSegment_concur hsegments (fun contextKey => ?_) c path key
    exact .membership (Source.mk d₁ membership?).environment_reads contextKey
  have hvalues : ∀ {m₁ m₂ : Run Bool} {b₁ b₂ : Bool}, Concur ⟨d₁, membership?⟩ m₁ m₂ →
      (exec m₁ p₁).1 = .ok b₁ → (exec m₂ p₂).1 = .ok b₂ → b₁ = b₂ := by
    intro m₁ m₂ b₁ b₂ h h₁ h₂
    exact h.value b₁ b₂ ⟨p₁, hp₁, h₁⟩ ⟨p₂, hp₂, h₂⟩
  refine ⟨fun clauses₁ clauses₂ b₁ b₂ h => ?_, fun clause₁ clause₂ b₁ b₂ h => ?_,
    fun key b₁ b₂ => ?_⟩
  · exact hvalues (clausesHold_concur hin h)
  · exact hvalues (clauseHolds_concur hin h)
  · exact hvalues (hin key)

/-- In the one order a membership is asked for and in the other it is not, at two levels. -/
theorem matching_of_rearranged_nested :
    let naming (keys : List String) : Clause :=
      ⟨none, none, .segmentMatch, keys.map .string, false⟩
    let plan (values : List String) : Clause :=
      ⟨none, some ⟨"plan"⟩, .isIn, values.map .string, false⟩
    let rule (clauses : List Clause) : SegmentRule := ⟨none, clauses, none, none, none⟩
    let plain (key : String) (excluded : List String) (rules : List SegmentRule) : Segment :=
      ⟨key, 1, "", [], excluded, [], [], rules, false, none, none⟩
    let big : Segment := ⟨"big", 1, "", [], [], [], [], [], true, some 2, none⟩
    let rest : Entries Segment := [("inner", plain "inner" [] [rule [plan ["paid"]]]), ("big", big)]
    let d₁ : DataSet := ⟨[], ("outer", plain "outer" ["v", "w"]
      [rule [naming ["big", "inner"], plan ["free", "paid"]], rule [plan ["free"]]]) :: rest⟩
    let d₂ : DataSet := ⟨[], ("outer", plain "outer" ["w", "v"]
      [rule [plan ["free"]], rule [plan ["paid", "free"], naming ["inner", "big"]]]) :: rest⟩
    let membership? (_ : String) : Option (Membership × BigSegmentsStatus) := some ([], .healthy)
    let c : Context := ⟨[("key", .string "u"), ("plan", .string "paid")], true⟩
    let in₁ := (Source.mk d₁ membership?).environment.inSegment c []
    let in₂ := (Source.mk d₂ membership?).environment.inSegment c []
    let clauses₁ := [naming ["big", "outer"], plan ["free"]]
    let clauses₂ := [plan ["free"], naming ["outer", "big"]]
    (∃ b₁ b₂, (exec (clausesHold in₁ c clauses₁) .start).1 = .ok b₁ ∧
      (exec (clausesHold in₂ c clauses₂) .start).1 = .ok b₂ ∧ b₁ = b₂) ∧
    (∃ b₁ b₂, (exec (clauseHolds in₁ c (naming ["big", "outer"])) .start).1 = .ok b₁ ∧
      (exec (clauseHolds in₂ c (naming ["outer", "big"])) .start).1 = .ok b₂ ∧ b₁ = b₂) ∧
    (∃ b₁ b₂, (exec (in₁ "outer") .start).1 = .ok b₁ ∧ (exec (in₂ "outer") .start).1 = .ok b₂ ∧
      b₁ = b₂) ∧
    (exec (in₁ "outer") .start).2.queries ≠ (exec (in₂ "outer") .start).2.queries := by
  intro naming plan rule plain big rest d₁ d₂ membership? c in₁ in₂ clauses₁ clauses₂
  have hnaming (a b : String) : (naming [a, b]).Rearranged (naming [b, a]) :=
    .intro _ _ (.swap _ _ [])
  have hplan (a b : String) : (plan [a, b]).Rearranged (plan [b, a]) := .intro _ _ (.swap _ _ [])
  have hrule : (rule [naming ["big", "inner"], plan ["free", "paid"]]).Rearranged
      (rule [plan ["paid", "free"], naming ["inner", "big"]]) :=
    .intro _ _ ⟨_, .swap _ _ [], .cons (hplan _ _) (.cons (hnaming _ _) .nil)⟩
  have hsegments : ∀ key, Option.Rel Segment.Rearranged (Entries.find? key d₁.segments)
      (Entries.find? key d₂.segments) := by
    intro key
    refine Entries.rel_find?_cons ?_ ?_
    · refine .intro _ _ _ _ _ _ (.refl _) (.swap _ _ []) ⟨_, .refl _, .nil⟩ ⟨_, .refl _, .nil⟩ ?_
      exact ⟨_, .swap _ _ [], .cons (.refl _) (.cons hrule .nil)⟩
    · cases Entries.find? key rest with
      | none => exact .none
      | some s => exact .some (.refl s)
  obtain ⟨hclauses, hclause, hsegment⟩ :=
    matching_of_rearranged d₁ d₂ membership? c [] .start .start hsegments
      (Source.coherent_start _) (Source.coherent_start _)
  have hrearranged : Rearranged Clause.Rearranged clauses₁ clauses₂ :=
    ⟨_, .swap _ _ [], .cons (.refl _) (.cons (hnaming _ _) .nil)⟩
  have hno₁ : (exec (clausesHold in₁ c clauses₁) .start).1 = .ok false := by decide +kernel
  have hno₂ : (exec (clausesHold in₂ c clauses₂) .start).1 = .ok false := by decide +kernel
  have hyes₁ : (exec (clauseHolds in₁ c (naming ["big", "outer"])) .start).1 = .ok true := by
    decide +kernel
  have hyes₂ : (exec (clauseHolds in₂ c (naming ["outer", "big"])) .start).1 = .ok true := by
    decide +kernel
  have hin₁ : (exec (in₁ "outer") .start).1 = .ok true := by decide +kernel
  have hin₂ : (exec (in₂ "outer") .start).1 = .ok true := by decide +kernel
  refine ⟨⟨_, _, hno₁, hno₂, hclauses _ _ _ _ hrearranged hno₁ hno₂⟩,
    ⟨_, _, hyes₁, hyes₂, hclause _ _ _ _ (hnaming _ _) hyes₁ hyes₂⟩,
    ⟨_, _, hin₁, hin₂, hsegment _ _ _ hin₁ hin₂⟩, ?_⟩
  decide +kernel

end Environment
end FeatureFlags
