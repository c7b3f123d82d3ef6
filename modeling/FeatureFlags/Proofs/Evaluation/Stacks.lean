import FeatureFlags.Proofs.Evaluation.Health
import FeatureFlags.Proofs.Run.Stacks

/-! # Evaluations that keep stacks

The evaluator hands its two paths on as arguments: the flags being evaluated, and the segments being
looked at. The functions of `Environment.OnStacks` do the same with two stacks in their state, from
which a key has to be dropped again on every way out.

* **The same outcome** (`OnStacks.inSegment_mirrors`, `OnStacks.evaluate_mirrors`) — they are
  compared with the evaluator part by part, from any state whatsoever, so that every call leaves the
  stacks as it has found them.
* **Growth** (`Progress.Grows`) — what is gathered meanwhile only grows: events are added, the
  health gets no better, and answers are kept.

Both are put together in `stacks_restored`. The recursion of these functions does not follow the
path, which is in their state, so the number of nested calls is limited. Something else is run
beyond the limit, and the limit is high enough for that never to happen. -/

namespace FeatureFlags

/-- There are not more stored things off a path than there are at all. -/
theorem Entries.offPath_lt_length_succ {α : Type} (es : Entries α) (path : List String) :
    es.offPath path < es.length + 1 := by
  have hnames : es.names.length = es.length := List.length_map _
  have hle : es.offPath path ≤ es.names.length := List.length_filter_le ..
  omega

/-! ## What is gathered only grows

A run that leaves its stacks alone, and whose progress grows, has restored what it has found
(`Held.Restored`). -/

/-- Between the two, events are added, the health of the store does not get better, and no answer
about memberships is changed or forgotten. -/
structure Progress.Grows (p q : Progress) : Prop where
  events : p.events <+: q.events
  status : ∀ known ∈ p.status, ∃ now ∈ q.status, known.rank ≤ now.rank
  memberships : ∀ contextKey a, Entries.find? contextKey p.memberships = some a →
    Entries.find? contextKey q.memberships = some a

theorem Progress.grows_isPath : Run.IsPath Progress.Grows where
  refl p := ⟨List.prefix_rfl, fun known h => ⟨known, h, Nat.le_refl _⟩, fun _ _ h => h⟩
  trans p q r hpq hqr := by
    refine ⟨hpq.events.trans hqr.events, fun known hknown => ?_, fun contextKey a ha => ?_⟩
    · obtain ⟨later, hlater, hle⟩ := hpq.status known hknown
      obtain ⟨now, hnow, hle'⟩ := hqr.status later hlater
      exact ⟨now, hnow, hle.trans hle'⟩
    · exact hqr.memberships contextKey a (hpq.memberships contextKey a ha)

/-- What is learnt about the health makes it no better. -/
theorem BigSegmentsStatus.rank_le_learn (status : Option BigSegmentsStatus)
    (s : BigSegmentsStatus) :
    ∀ known ∈ status, ∃ now ∈ learn status s, known.rank ≤ now.rank := by
  rintro known rfl
  obtain ⟨-, hle, -⟩ := merge_spec known s
  exact ⟨known.merge s, rfl, hle⟩

/-- An answer is remembered only where there is none yet. -/
theorem Source.askOnce_grows (source : Source) (contextKey : String) :
    Run.Moves Progress.Grows (source.askOnce contextKey) := by
  intro p
  rw [exec_askOnce]
  cases hfound : Entries.find? contextKey p.memberships with
  | some a => exact Progress.grows_isPath.refl p
  | none =>
      rw [exec_askAnew_eq]
      refine ⟨List.prefix_rfl, BigSegmentsStatus.rank_le_learn p.status _, fun other a ha => ?_⟩
      -- What is inserted has a key of its own, so an answer that was there is still found.
      have hne : other ≠ contextKey := by
        rintro rfl
        rw [hfound] at ha
        cases ha
      exact (Entries.find?_insert_of_ne hne _ _).trans ha

/-- The stacks are the same, and what is gathered has only grown. -/
structure Held.Restored (s t : Held) : Prop where
  visited : t.visited = s.visited
  segmentStack : t.segmentStack = s.segmentStack
  grows : s.progress.Grows t.progress

/-- A run that mirrors one that only adds leaves the stacks as it has found them. -/
theorem StackRun.Mirrors.restores {α : Type} {m : StackRun α} {m' : Run α} {s : Held}
    (h : Mirrors s.visited s.segmentStack m m') (hgrows : Run.Moves Progress.Grows m') :
    s.Restored (exec m s).2 := by
  have hexec := h s.progress
  refine ⟨?_, ?_, ?_⟩
  · exact congrArg (·.2.visited) hexec
  · exact congrArg (·.2.segmentStack) hexec
  · exact (congrArg (·.2.progress) hexec) ▸ hgrows s.progress

namespace Environment

open StackRun (Mirrors)
open Run (Moves)

/-! ## The evaluator with stacks

Each function has the name of its counterpart without stacks. Those that only hand the matcher of
segments on differ from it in the kind of run. -/

namespace OnStacks

section

variable (inSegment : String → StackRun Bool) (c : Context)

def clauseHolds (clause : Clause) : StackRun Bool :=
  if clause.op = .segmentMatch then do
    let matched ← (clause.values.filterMap Json.text?).anyM inSegment
    return matched != clause.negate
  else StackRun.ofExcept (clause.holdsFor c)

def clausesHold (clauses : List Clause) : StackRun Bool := clauses.allM (clauseHolds inSegment c)

def segmentRuleHolds (s : Segment) (rule : SegmentRule) : StackRun Bool := do
  if ← clausesHold inSegment c rule.clauses then StackRun.ofExcept (rule.sharesWith s c)
  else return false

def segmentRulesHold (s : Segment) : StackRun Bool :=
  s.rules.anyM (segmentRuleHolds inSegment c s)

def segmentContains (s : Segment) : StackRun Bool :=
  match s.listed? c with
  | some listed => return listed
  | none => segmentRulesHold inSegment c s

def bigSegmentContains (env : Environment) (s : Segment) : StackRun Bool := do
  match s.generation with
  | none =>
    StackRun.ofRun (Run.mergeStatus .notConfigured)
    return false
  | some generation =>
    match c.key? (s.unboundedContextKind.getD Context.defaultKind) with
    | none => return false
    | some contextKey =>
      let membership ← StackRun.ofRun (env.membership contextKey)
      match membership.bind (Entries.find? (s.generationName generation)) with
      | some included => return included
      | none => segmentRulesHold inSegment c s

def resolveSegment (env : Environment) (s : Segment) : StackRun Bool :=
  if s.unbounded then bigSegmentContains inSegment c env s else segmentContains inSegment c s

/-- The first rule that the context satisfies, with its place; `index` is the place of the first. -/
def firstRule? (index : Nat) : List Rule → StackRun (Option (Nat × Rule))
  | [] => return none
  | rule :: rules => do
    if ← clausesHold inSegment c rule.clauses then return some (index, rule)
    else firstRule? (index + 1) rules

def serveByRules (f : Flag) : StackRun Detail := do
  match ← firstRule? inSegment c 0 f.rules with
  | some (index, rule) =>
    StackRun.ofExcept (f.serveFor c rule.serving (.ruleMatch index rule.id))
  | none => StackRun.ofExcept (f.serveFor c f.fallthrough .fallthrough)

def serveOn (f : Flag) : StackRun Detail :=
  match f.targetVariation? c with
  | some variation => StackRun.ofExcept (f.serve variation (.plain .targetMatch))
  | none => serveByRules inSegment c f

end

/-- Look a segment up and resolve it with its key on the stack. -/
def lookUpSegment (env : Environment) (key : String) (resolve : Segment → StackRun Bool) :
    StackRun Bool := do
  if key ∈ (← StackRun.segmentStack) then throw (.circularSegment key)
  else
    StackRun.ofRun (Run.ask (.segment key))
    match Entries.find? key env.data.segments with
    | none => return false
    | some s => StackRun.amidSegment key (resolve s) >>= StackRun.ofExcept

/-- Whether the context belongs to the segment of a key; `stop` is run in place of a call that is
nested beyond `calls`. -/
def inSegment (env : Environment) (c : Context) (stop : StackRun Bool) :
    Nat → String → StackRun Bool
  | 0, _ => stop
  | calls + 1, key => lookUpSegment env key (resolveSegment (inSegment env c stop calls) c env)

def firstUnmet? (isMet : Prerequisite → StackRun Bool) :
    List Prerequisite → StackRun (Option Prerequisite)
  | [] => return none
  | p :: ps => do if ← isMet p then firstUnmet? isMet ps else return some p

/-- Whether a prerequisite of `f` is met; `deeper` evaluates the flag that it names, with its key on
the stack. -/
def meets (env : Environment) (policy : EventPolicy) (c : Context)
    (deeper : Flag → StackRun Detail) (f : Flag) (p : Prerequisite) : StackRun Bool := do
  if p.key ∈ (← StackRun.visited) then throw (.circularPrerequisite p.key)
  else
    StackRun.ofRun (Run.ask (.flag p.key))
    match Entries.find? p.key env.data.flags with
    | none => return false
    | some g =>
      let d ← StackRun.amidFlag p.key (deeper g) >>= fun r => StackRun.ofExcept (contained r)
      StackRun.ofRun (Run.report (policy.event g c d .null (some f)))
      return isServed p g d

def checkPrerequisites (env : Environment) (policy : EventPolicy) (c : Context)
    (deeper : Flag → StackRun Detail) (f : Flag) : StackRun (Option Prerequisite) :=
  firstUnmet? (meets env policy c deeper f) f.prerequisites

/-- What a flag that is on serves, once its prerequisites are checked. -/
def settle (inSegment : String → StackRun Bool) (c : Context) (f : Flag) :
    Option Prerequisite → StackRun Detail
  | some p => StackRun.ofExcept (f.serveOff (.plain (.prerequisiteFailed p.key)))
  | none => serveOn inSegment c f

/-- Evaluate a flag; `stop` is run in place of an evaluation that is nested beyond `calls`, or that
starts while other segments than `amid` are being looked at. -/
def evaluate (env : Environment) (policy : EventPolicy) (c : Context)
    (inSegment : String → StackRun Bool) (stop : StackRun Detail) (amid : List String) :
    Nat → Flag → StackRun Detail
  | 0, _ => stop
  | calls + 1, f => do
    if (← StackRun.segmentStack) ≠ amid then stop
    else if !f.on then StackRun.ofExcept (f.serveOff (.plain .off))
    else
      checkPrerequisites env policy c (evaluate env policy c inSegment stop amid calls) f
        >>= settle inSegment c f

/-! ## The same evaluator without stacks

Two matchers of segments are given, one of which mirrors the other for each key. -/

variable {env : Environment} {policy : EventPolicy} {c : Context} {flags segments : List String}

section

variable {inSeg : String → StackRun Bool} {inSeg' : String → Run Bool}
  (hin : ∀ key, Mirrors flags segments (inSeg key) (inSeg' key))

include hin

theorem clauseHolds_mirrors (clause : Clause) :
    Mirrors flags segments (clauseHolds inSeg c clause)
      (Environment.clauseHolds inSeg' c clause) := by
  unfold clauseHolds Environment.clauseHolds
  split
  · exact .bind (.anyM fun key _ => hin key) fun matched => .pure _
  · exact .ofExcept _

theorem clausesHold_mirrors (clauses : List Clause) :
    Mirrors flags segments (clausesHold inSeg c clauses)
      (Environment.clausesHold inSeg' c clauses) :=
  .allM fun clause _ => clauseHolds_mirrors hin clause

theorem segmentRulesHold_mirrors (s : Segment) :
    Mirrors flags segments (segmentRulesHold inSeg c s)
      (Environment.segmentRulesHold inSeg' c s) := by
  refine .anyM fun rule _ => ?_
  refine .bind (clausesHold_mirrors hin rule.clauses) fun holds => ?_
  cases holds with
  | true => exact .ofExcept _
  | false => exact .pure false

theorem resolveSegment_mirrors (s : Segment) :
    Mirrors flags segments (resolveSegment inSeg c env s)
      (env.resolveSegment inSeg' c s) := by
  unfold resolveSegment Environment.resolveSegment
  split
  · unfold bigSegmentContains Environment.bigSegmentContains
    cases s.generation with
    | none => exact .bind (.ofRun _) fun _ => .pure false
    | some generation =>
        cases c.key? (s.unboundedContextKind.getD Context.defaultKind) with
        | none => exact .pure false
        | some contextKey =>
            refine .bind (.ofRun _) fun membership => ?_
            cases membership.bind (Entries.find? (s.generationName generation)) with
            | some included => exact .pure included
            | none => exact segmentRulesHold_mirrors hin s
  · unfold segmentContains Environment.segmentContains
    cases s.listed? c with
    | some listed => exact .pure listed
    | none => exact segmentRulesHold_mirrors hin s

theorem firstRule?_mirrors (index : Nat) (rules : List Rule) :
    Mirrors flags segments (firstRule? inSeg c index rules)
      (Environment.firstRule? inSeg' c index rules) := by
  induction rules generalizing index with
  | nil => exact .pure none
  | cons rule rules ih =>
      refine .bind (clausesHold_mirrors hin rule.clauses) fun holds => ?_
      cases holds with
      | true => exact .pure _
      | false => exact ih (index + 1)

theorem settle_mirrors (f : Flag) (unmet : Option Prerequisite) :
    Mirrors flags segments (settle inSeg c f unmet) (Environment.settle inSeg' c f unmet) := by
  cases unmet with
  | some p => exact .ofExcept _
  | none =>
      unfold settle Environment.settle serveOn Environment.serveOn
      cases f.targetVariation? c with
      | some variation => exact .ofExcept _
      | none =>
          refine .bind (firstRule?_mirrors hin 0 f.rules) fun found => ?_
          cases found with
          | some rule => exact .ofExcept _
          | none => exact .ofExcept _

end

/-- With the path on its stack, a call does what a call does that is told the path. As many nested
calls are enough as there are stored segments off the path, and one more. -/
theorem inSegment_mirrors {calls : Nat} (hcalls : env.data.segments.offPath segments < calls)
    (stop : StackRun Bool) (key : String) :
    Mirrors flags segments (inSegment env c stop calls key) (env.inSegment c segments key) := by
  induction calls generalizing segments key with
  | zero => exact absurd hcalls (Nat.not_lt_zero _)
  | succ calls ih =>
      rw [inSegment_eq, inSegment, lookUpSegment, Environment.lookUpSegment]
      refine .segmentStack_bind ?_
      by_cases hp : key ∈ segments
      · rw [if_pos hp, if_pos hp]
        exact .throw _
      · rw [if_neg hp, if_neg hp]
        refine .bind (.ofRun _) fun _ => ?_
        cases hs : Entries.find? key env.data.segments with
        | none => exact .pure false
        | some s =>
            -- The key is pushed, which leaves one stored segment less off the path.
            have hoff := Entries.offPath_cons_lt hp (Entries.mem_names_of_find? hs)
            have hdeeper : Mirrors flags (key :: segments)
                (resolveSegment (inSegment env c stop calls) c env s)
                (env.resolveSegment (env.inSegment c (key :: segments)) c s) :=
              resolveSegment_mirrors (fun next => ih (by omega) next) s
            have hpopped := hdeeper.amidSegment.bind fun r => Mirrors.ofExcept r
            rwa [Run.attempt_bind_ofExcept] at hpopped

/-! ## Flags

An evaluation within segments has the stack of segments that it has started with, and so does each
one nested in it. -/

theorem firstUnmet?_mirrors {met : Prerequisite → StackRun Bool} {met' : Prerequisite → Run Bool}
    (hmet : ∀ p, Mirrors flags segments (met p) (met' p)) (ps : List Prerequisite) :
    Mirrors flags segments (firstUnmet? met ps) (Environment.firstUnmet? met' ps) := by
  induction ps with
  | nil => exact .pure none
  | cons p ps ih =>
      refine .bind (hmet p) fun met => ?_
      cases met with
      | true => exact ih
      | false => exact .pure (some p)

theorem meets_mirrors {deeper : Flag → StackRun Detail} {deeper' : List String → Flag → Run Detail}
    {f : Flag} {p : Prerequisite}
    (h : p.key ∉ flags → ∀ g, Entries.find? p.key env.data.flags = some g →
      Mirrors (p.key :: flags) segments (deeper g) (deeper' (p.key :: flags) g)) :
    Mirrors flags segments (meets env policy c deeper f p)
      (env.meets policy c deeper' flags f p) := by
  rw [meets, Environment.meets]
  refine .visited_bind ?_
  by_cases hp : p.key ∈ flags
  · rw [if_pos hp, if_pos hp]
    exact .throw _
  · rw [if_neg hp, if_neg hp]
    refine .bind (.ofRun _) fun _ => ?_
    cases hg : Entries.find? p.key env.data.flags with
    | none => exact .pure false
    | some g =>
        -- The key is dropped before it is seen whether the evaluation has failed.
        have hpopped := (h hp g hg).amidFlag.bind fun r => Mirrors.ofExcept (contained r)
        rw [Run.attempt_bind_contained] at hpopped
        exact .bind hpopped fun d => .bind (.ofRun _) fun _ => .pure _

end OnStacks

/-- Evaluate a flag amid whatever segments `inSegment` is amid. An evaluation that is nested beyond
`calls` fails. -/
def evaluateAmid (env : Environment) (policy : EventPolicy) (c : Context)
    (inSegment : String → Run Bool) : Nat → List String → Flag → Run Detail
  | 0, _, f => throw (.circularPrerequisite f.key)
  | calls + 1, path, f =>
      env.evaluateStep policy c (env.evaluateAmid policy c inSegment calls) inSegment path f

/-- Amid no segments this is the evaluator, if as many evaluations may be nested as there are stored
flags off the path, and one more. -/
theorem evaluateAmid_eq {env : Environment} {policy : EventPolicy} {c : Context} {calls : Nat}
    {path : List String} (hcalls : env.data.flags.offPath path < calls) (f : Flag) :
    env.evaluateAmid policy c (env.inSegment c []) calls path f
      = env.evaluate policy c path f := by
  induction calls generalizing path f with
  | zero => exact absurd hcalls (Nat.not_lt_zero _)
  | succ calls ih =>
      have hmeets : ∀ p, env.meets policy c
          (env.evaluateAmid policy c (env.inSegment c []) calls) path f p
            = env.meets policy c (env.evaluate policy c) path f p := by
        intro p
        refine meets_congr fun hp g hg => ih ?_ g
        have hoff := Entries.offPath_cons_lt hp (Entries.mem_names_of_find? hg)
        omega
      rw [evaluate_eq_evaluateStep, evaluateAmid, evaluateStep, evaluateStep, funext hmeets]

namespace OnStacks

variable {env : Environment} {policy : EventPolicy} {c : Context} {flags segments : List String}
  {inSeg : String → StackRun Bool} {inSeg' : String → Run Bool}

theorem checkPrerequisites_mirrors {deeper : Flag → StackRun Detail}
    {deeper' : List String → Flag → Run Detail} {f : Flag}
    (h : ∀ key, key ∉ flags → ∀ g, Entries.find? key env.data.flags = some g →
      Mirrors (key :: flags) segments (deeper g) (deeper' (key :: flags) g)) :
    Mirrors flags segments (checkPrerequisites env policy c deeper f)
      (Environment.firstUnmet? (env.meets policy c deeper' flags f) f.prerequisites) :=
  firstUnmet?_mirrors (fun p => meets_mirrors (h p.key)) f.prerequisites

/-- With the path on its stack, an evaluation does what an evaluation does that is told the path.
Each of those nested in it starts with the same segments as it does. -/
theorem evaluate_mirrors (hin : ∀ key flags, Mirrors flags segments (inSeg key) (inSeg' key))
    {calls : Nat} (hcalls : env.data.flags.offPath flags < calls) (stop : StackRun Detail)
    (f : Flag) :
    Mirrors flags segments (evaluate env policy c inSeg stop segments calls f)
      (env.evaluateAmid policy c inSeg' calls flags f) := by
  induction calls generalizing flags f with
  | zero => exact absurd hcalls (Nat.not_lt_zero _)
  | succ calls ih =>
      rw [evaluate, evaluateAmid, evaluateStep]
      refine .segmentStack_bind ?_
      rw [if_neg (not_not.mpr rfl)]
      split
      · exact .ofExcept _
      · refine .bind (checkPrerequisites_mirrors fun key hp g hg => ?_) fun unmet =>
          settle_mirrors (fun key => hin key flags) f unmet
        -- The evaluation of `g` starts with its key on the stack, and with the same segments.
        have hoff := Entries.offPath_cons_lt hp (Entries.mem_names_of_find? hg)
        exact ih (by omega) g

end OnStacks

/-! ## Growth of evaluations

Each thing that an evaluation does by itself lets the progress grow. -/

theorem evaluatesWithin_grows (source : Source) (policy : EventPolicy) (c : Context) :
    source.environment.EvaluatesWithin policy c Progress.Grows :=
  { Progress.grows_isPath with
    askSegment := fun _ p => { Progress.grows_isPath.refl p with }
    mergeStatus := fun s p =>
      { Progress.grows_isPath.refl p with status := BigSegmentsStatus.rank_le_learn p.status s }
    membership := fun _ contextKey _ => source.askOnce_grows contextKey
    askFlag := fun _ p => { Progress.grows_isPath.refl p with }
    report := fun _ _ _ p => { Progress.grows_isPath.refl p with events := List.prefix_append .. } }

section

variable {env : Environment} {policy : EventPolicy} {c : Context} {R : Progress → Progress → Prop}

theorem meets_moves (h : env.EvaluatesWithin policy c R)
    {deeper : List String → Flag → Run Detail} (hdeeper : ∀ path g, Moves R (deeper path g))
    (path : List String) (f : Flag) (p : Prerequisite) :
    Moves R (env.meets policy c deeper path f p) := by
  have hpath := h.toIsPath
  unfold meets
  split
  · exact .throw hpath _
  · refine .bind hpath (h.askFlag p.key) fun _ => ?_
    cases Entries.find? p.key env.data.flags with
    | none => exact .pure hpath false
    | some g =>
        refine .bind hpath (.contain (hdeeper _ g)) fun d => ?_
        exact .bind hpath (h.report g d f) fun _ => .pure hpath _

theorem evaluateAmid_moves (h : env.EvaluatesWithin policy c R) {inSeg : String → Run Bool}
    (hin : ∀ key, Moves R (inSeg key)) (calls : Nat) (path : List String) (f : Flag) :
    Moves R (env.evaluateAmid policy c inSeg calls path f) := by
  have hpath := h.toIsPath
  induction calls generalizing path f with
  | zero => exact .throw hpath _
  | succ calls ih =>
      rw [evaluateAmid, evaluateStep]
      split
      · exact .ofExcept hpath _
      · refine .bind hpath (firstUnmet?_moves hpath fun p _ => meets_moves h ih path f p)
          fun unmet => ?_
        cases unmet with
        | some p => exact .ofExcept hpath _
        | none => exact serveOn_moves hpath hin f

end

/-! ## What every call leaves

From here on the limits are those of the data, whatever is on the stacks already. -/

namespace OnStacks

section

variable (env : Environment) (policy : EventPolicy) (c : Context) (stopSegment : StackRun Bool)
  (stopFlag : StackRun Detail)

def lookIn (key : String) : StackRun Bool :=
  inSegment env c stopSegment (env.data.segments.length + 1) key

def evaluateIn (amid : List String) (f : Flag) : StackRun Detail :=
  evaluate env policy c (lookIn env c stopSegment) stopFlag amid (env.data.flags.length + 1) f

theorem lookIn_mirrors (flags segments : List String) (key : String) :
    Mirrors flags segments (lookIn env c stopSegment key) (env.inSegment c segments key) :=
  inSegment_mirrors (Entries.offPath_lt_length_succ _ segments) stopSegment key

theorem evaluateIn_mirrors (flags segments : List String) (f : Flag) :
    Mirrors flags segments (evaluateIn env policy c stopSegment stopFlag segments f)
      (env.evaluateAmid policy c (env.inSegment c segments) (env.data.flags.length + 1) flags f) :=
  evaluate_mirrors (fun key flags => lookIn_mirrors env c stopSegment flags segments key)
    (Entries.offPath_lt_length_succ _ flags) stopFlag f

/-- Amid no segments an evaluation comes to what the evaluator without stacks comes to. -/
theorem evaluateIn_mirrors_evaluate (flags : List String) (f : Flag) :
    Mirrors flags [] (evaluateIn env policy c stopSegment stopFlag [] f)
      (env.evaluate policy c flags f) := by
  have h := evaluateIn_mirrors env policy c stopSegment stopFlag flags [] f
  rwa [evaluateAmid_eq (Entries.offPath_lt_length_succ _ flags)] at h

end

section

variable {env : Environment} {policy : EventPolicy} {c : Context} {s : Held}
  (h : env.EvaluatesWithin policy c Progress.Grows)

include h

theorem lookIn_restores (stopSegment : StackRun Bool) (key : String) :
    s.Restored (StackRun.exec (lookIn env c stopSegment key) s).2 :=
  (lookIn_mirrors env c stopSegment s.visited s.segmentStack key).restores
    (inSegment_moves h.toLooksUpWithin s.segmentStack key)

theorem clauseHolds_restores (stopSegment : StackRun Bool) (clause : Clause) :
    s.Restored (StackRun.exec (clauseHolds (lookIn env c stopSegment) c clause) s).2 :=
  (clauseHolds_mirrors (lookIn_mirrors env c stopSegment s.visited s.segmentStack)
    clause).restores
    (clauseHolds_moves h.toIsPath (inSegment_moves h.toLooksUpWithin s.segmentStack) clause)

theorem clausesHold_restores (stopSegment : StackRun Bool) (clauses : List Clause) :
    s.Restored (StackRun.exec (clausesHold (lookIn env c stopSegment) c clauses) s).2 :=
  (clausesHold_mirrors (lookIn_mirrors env c stopSegment s.visited s.segmentStack)
    clauses).restores
    (clausesHold_moves h.toIsPath (inSegment_moves h.toLooksUpWithin s.segmentStack) clauses)

theorem evaluateIn_restores (stopSegment : StackRun Bool) (stopFlag : StackRun Detail) (f : Flag) :
    s.Restored (StackRun.exec
      (evaluateIn env policy c stopSegment stopFlag s.segmentStack f) s).2 :=
  (evaluateIn_mirrors env policy c stopSegment stopFlag s.visited s.segmentStack f).restores
    (evaluateAmid_moves h (inSegment_moves h.toLooksUpWithin s.segmentStack) _ s.visited f)

theorem checkPrerequisites_restores (stopSegment : StackRun Bool) (stopFlag : StackRun Detail)
    (f : Flag) :
    s.Restored (StackRun.exec (checkPrerequisites env policy c
      (evaluateIn env policy c stopSegment stopFlag s.segmentStack) f) s).2 := by
  have hdeeper := evaluateIn_mirrors env policy c stopSegment stopFlag
  have hgrows := evaluateAmid_moves h (inSegment_moves h.toLooksUpWithin s.segmentStack)
    (env.data.flags.length + 1)
  refine (checkPrerequisites_mirrors fun key _ g _ =>
    hdeeper (key :: s.visited) s.segmentStack g).restores ?_
  exact firstUnmet?_moves h.toIsPath fun p _ => meets_moves h hgrows s.visited f p

end

end OnStacks

/-- From any state whatsoever, looking for the context in a segment, in a clause or in some clauses,
checking prerequisites and evaluating a flag leave both stacks as they have found them, whether they
succeed or fail, and only add to what is gathered. What they come to is what the evaluator without
stacks comes to, if a flag is evaluated amid no segments; as this is so for every `stopFlag`, no
evaluation nested in it starts while segments are being looked at. -/
theorem stacks_restored (source : Source) (policy : EventPolicy) (c : Context)
    (stopSegment : StackRun Bool) (stopFlag : StackRun Detail) (s : Held) :
    let env := source.environment
    let inSegment := OnStacks.lookIn env c stopSegment
    let evaluate := OnStacks.evaluateIn env policy c stopSegment stopFlag
    (∀ key, s.Restored (StackRun.exec (inSegment key) s).2) ∧
    (∀ clause, s.Restored (StackRun.exec (OnStacks.clauseHolds inSegment c clause) s).2) ∧
    (∀ clauses, s.Restored (StackRun.exec (OnStacks.clausesHold inSegment c clauses) s).2) ∧
    (∀ f, s.Restored (StackRun.exec
      (OnStacks.checkPrerequisites env policy c (evaluate s.segmentStack) f) s).2) ∧
    (∀ f, s.Restored (StackRun.exec (evaluate s.segmentStack f) s).2) ∧
    (∀ key, Mirrors s.visited s.segmentStack (inSegment key)
      (env.inSegment c s.segmentStack key)) ∧
    (∀ f, Mirrors s.visited [] (evaluate [] f) (env.evaluate policy c s.visited f)) := by
  have h := evaluatesWithin_grows source policy c
  exact ⟨OnStacks.lookIn_restores h stopSegment, OnStacks.clauseHolds_restores h stopSegment,
    OnStacks.clausesHold_restores h stopSegment,
    OnStacks.checkPrerequisites_restores h stopSegment stopFlag,
    OnStacks.evaluateIn_restores h stopSegment stopFlag,
    OnStacks.lookIn_mirrors _ c stopSegment s.visited s.segmentStack,
    OnStacks.evaluateIn_mirrors_evaluate _ policy c stopSegment stopFlag s.visited⟩

end Environment
end FeatureFlags
