import FeatureFlags.Evaluation.Matching

/-!
# Evaluating flags

A flag that is off serves its off variation. A flag that is on serves by the first of these that
applies:

* a prerequisite that is not met serves the off variation (`firstUnmet?`);
* a target that lists the context serves its variation (`Flag.targetVariation?`);
* the first rule that the context satisfies serves a variation or a rollout (`firstRule?`);
* at last there is the fallthrough.

Prerequisites are evaluated in turn, each reporting an event. The keys of the flags being evaluated
form a path, and a prerequisite on that path is an error of the whole evaluation; any other error of
a prerequisite only makes it unmet (`contain`). Each step down takes one more stored key into the
path, so an evaluation ends whatever the flags say of each other.
-/

namespace FeatureFlags

namespace Flag

def serve (f : Flag) (index : Int64) (reason : Reason) : Except EvaluationError Detail :=
  match f.variation? index with
  | some (place, v) => .ok ⟨v, some place, reason⟩
  | none => .error (.invalidVariationIndex index)

/-- The detail of serving the off variation, or nothing if there is none. -/
def serveOff (f : Flag) (reason : Reason) : Except EvaluationError Detail :=
  match f.offVariation with
  | some index => f.serve index reason
  | none => .ok ⟨.null, none, reason⟩

/-- The keys that a context target lists. For users that is the list of the user target with the
same variation, if there is one. -/
def keysOf (f : Flag) (target : Target) : List String :=
  if target.contextKind.getD Context.defaultKind = Context.defaultKind then
    match f.targets.find? fun t => t.variation == target.variation with
    | some t => t.values
    | none => target.values
  else target.values

/-- The variation of the first target that lists the context. Without context targets the user
targets count by themselves. -/
def targetVariation? (f : Flag) (c : Context) : Option Int64 :=
  if f.contextTargets.isEmpty then
    (f.targets.find? fun t => c.keyIn Context.defaultKind t.values).map Target.variation
  else
    (f.contextTargets.find? fun t =>
      c.keyIn (t.contextKind.getD Context.defaultKind) (f.keysOf t)).map Target.variation

def serveFor (f : Flag) (c : Context) (serving : Serving) (kind : ReasonKind) :
    Except EvaluationError Detail := do
  let (variation, inExperiment) ← serving.variationFor c f.key f.salt
  f.serve variation (.tracked kind inExperiment)

end Flag

namespace Environment

/-- The first rule that the context satisfies, with its place; `index` is the place of the first. -/
def firstRule? (inSegment : String → Run Bool) (c : Context) (index : Nat) :
    List Rule → Run (Option (Nat × Rule))
  | [] => return none
  | rule :: rules => do
    if ← clausesHold inSegment c rule.clauses then return some (index, rule)
    else firstRule? inSegment c (index + 1) rules

def serveByRules (inSegment : String → Run Bool) (c : Context) (f : Flag) : Run Detail := do
  match ← firstRule? inSegment c 0 f.rules with
  | some (index, rule) => Run.ofExcept (f.serveFor c rule.serving (.ruleMatch index rule.id))
  | none => Run.ofExcept (f.serveFor c f.fallthrough .fallthrough)

def serveOn (inSegment : String → Run Bool) (c : Context) (f : Flag) : Run Detail :=
  match f.targetVariation? c with
  | some variation => Run.ofExcept (f.serve variation (.plain .targetMatch))
  | none => serveByRules inSegment c f

/-- The first prerequisite that `isMet` denies. -/
def firstUnmet? (isMet : Prerequisite → Run Bool) : List Prerequisite → Run (Option Prerequisite)
  | [] => return none
  | p :: ps => do if ← isMet p then firstUnmet? isMet ps else return some p

/-- An error of a prerequisite becomes its detail, unless the path is circular. -/
def contain (run : Run Detail) : Run Detail :=
  tryCatch run fun e =>
    match e with
    | .circularPrerequisite key => throw (.circularPrerequisite key)
    | e => return Detail.ofError e.kind

/-- Whether an evaluated prerequisite serves the variation asked for. -/
def isServed (p : Prerequisite) (f : Flag) (d : Detail) : Bool :=
  f.on && d.variationIndex.any fun i => (i : Int) == p.variation.toInt

/-- Evaluate a flag; `path` holds the keys of the flags being evaluated, this one included. -/
def evaluate (env : Environment) (policy : EventPolicy) (c : Context) (path : List String)
    (f : Flag) : Run Detail :=
  if !f.on then Run.ofExcept (f.serveOff (.plain .off))
  else do
    let unmet ← firstUnmet? (fun p =>
      if _hp : p.key ∈ path then throw (.circularPrerequisite p.key)
      else do
        Run.ask (.flag p.key)
        match _hs : Entries.find? p.key env.data.flags with
        | none => return false
        | some g =>
          let d ← contain (env.evaluate policy c (p.key :: path) g)
          -- The event is reported whether the prerequisite is met or not.
          Run.report (policy.event g c d .null (some f))
          return isServed p g d) f.prerequisites
    match unmet with
    | some p => Run.ofExcept (f.serveOff (.plain (.prerequisiteFailed p.key)))
    | none => serveOn (env.inSegment c []) c f
termination_by env.data.flags.offPath path
decreasing_by exact Entries.offPath_cons_lt _hp (Entries.mem_names_of_find? _hs)

end Environment

/-! ### Whole evaluations

From outside, an evaluation always answers: an error becomes a detail without a value, and its cause
stands beside it. A flag that is missing and a value that is no context are answered in the same
way, before anything is asked for. -/

structure Evaluation where
  detail : Detail
  events : List Event
  error : Option EvaluationError
  /-- what was asked for on the way -/
  queries : List Query

namespace Evaluation

def failed (e : EvaluationError) : Evaluation := ⟨.ofError e.kind, [], some e, []⟩

/-- The answer of a run. Its reason carries the health that the whole run found. -/
def ofRun (result : Except EvaluationError Detail) (p : Progress) : Evaluation :=
  let (detail, error) := match result with
    | .ok d => (d, none)
    | .error e => (Detail.ofError e.kind, some e)
  ⟨{ detail with reason := { detail.reason with bigSegmentsStatus := p.status } }, p.events, error,
    p.queries⟩

end Evaluation

def Environment.evaluateFor (env : Environment) (policy : EventPolicy) (f : Option Flag)
    (c : Context) : Evaluation :=
  match f with
  | none => .failed .flagNotFound
  | some f =>
    let (result, p) := ((env.evaluate policy c [f.key] f).run).run .start
    .ofRun result p

/-- Evaluate a flag for a value that may be no context. -/
def Environment.evaluateValue (env : Environment) (policy : EventPolicy) (f : Option Flag)
    (v : Json) : Evaluation :=
  match Context.ofJson v with
  | .ok c => env.evaluateFor policy f c
  | .error e => .failed (.invalidContext e)

end FeatureFlags
