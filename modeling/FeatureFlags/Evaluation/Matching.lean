import FeatureFlags.Evaluation.Serving

/-!
# Clauses and segments

Whether a context satisfies clauses, and whether it belongs to a segment. Both ask each other: a
clause may name segments, and the rules of a segment have clauses. What is done at each level is
therefore written with the level below as an argument (`inSegment` in `clauseHolds` and in all that
is built on it), and only the last definition, `Environment.inSegment`, ties the knot.

The keys of the segments that are being looked at form a path; a segment that is met again on its
own path is an error. So each step down takes one more stored key into the path, which bounds the
depth.
-/

namespace FeatureFlags

/-! ### Clauses without segments

The clause is put to the attribute, or to each item of an attribute that is an array. -/

def Clause.matchesValue (clause : Clause) (v : Json) : Bool := clause.values.any (clause.op.apply v)

/-- Whether an attribute matches; an array does if one of its items does. A missing attribute, null
and objects leave the question open. -/
def Clause.matchesAttribute? (clause : Clause) : Option Json → Option Bool
  | none => none
  | some .null => none
  | some (.object _) => none
  | some (.array items) => some (items.any clause.matchesValue)
  | some v => some (clause.matchesValue v)

/-- Whether the context satisfies a clause that names no segments. Where the attribute leaves the
question open, negation does not answer it either. -/
def Clause.holdsFor (clause : Clause) (c : Context) : Except EvaluationError Bool :=
  match clause.reference with
  | none => .error (.invalidReference "")
  | some reference =>
    if !reference.isValid then .error (.invalidReference reference.text)
    else if reference.isKind then
      .ok ((c.kinds.any fun kind => clause.matchesValue (.string kind)) != clause.negate)
    else
      let kind := clause.contextKind.getD Context.defaultKind
      match clause.matchesAttribute? (c.value? kind reference) with
      | none => .ok false
      | some matched => .ok (matched != clause.negate)

/-! ### Segments without rules

A segment that lists a context takes it in, even if it is excluded as well; an excluded context is
not held against the rules. A rule may take in only a share of the contexts that satisfy it. -/

def Context.keyIn (c : Context) (kind : String) (keys : List String) : Bool :=
  (c.key? kind).any keys.contains

/-- Whether the context is listed as a user or in one of the targets. -/
def Context.listedIn (c : Context) (userKeys : List String) (targets : List SegmentTarget) : Bool :=
  c.keyIn Context.defaultKind userKeys ||
    targets.any fun t => c.keyIn (t.contextKind.getD Context.defaultKind) t.values

/-- What the lists of a segment say about a context. -/
def Segment.listed? (s : Segment) (c : Context) : Option Bool :=
  if c.listedIn s.included s.includedContexts then some true
  else if c.listedIn s.excluded s.excludedContexts then some false
  else none

def SegmentRule.sharesWith (rule : SegmentRule) (s : Segment) (c : Context) :
    Except EvaluationError Bool :=
  match rule.weight with
  | none => .ok true
  | some weight =>
    let reference := rule.bucketBy.getD ⟨"key"⟩
    if reference.isValid then
      let bucket := (Bucket.ofContext c s.key reference s.salt none rule.rolloutContextKind).1
      .ok (bucket < weight / weightScale)
    else .error (.invalidReference reference.text)

/-- The name under which memberships list a generation of a big segment. -/
def Segment.generationName (s : Segment) (generation : Int64) : String :=
  s.key ++ ".g" ++ String.ofList (Json.renderInt generation.toInt)

/-! ### Clauses and rules over segments

Clauses are asked up to the first that fails, and the keys of a clause and the rules of a segment up
to the first that takes the context in. An error ends all of them. -/

namespace Environment

/-- Whether the context satisfies a clause; `inSegment` says which segments it belongs to. -/
def clauseHolds (inSegment : String → Run Bool) (c : Context) (clause : Clause) : Run Bool :=
  if clause.op = .segmentMatch then do
    let matched ← (clause.values.filterMap Json.text?).anyM inSegment
    return matched != clause.negate
  else Run.ofExcept (clause.holdsFor c)

def clausesHold (inSegment : String → Run Bool) (c : Context) (clauses : List Clause) : Run Bool :=
  clauses.allM (clauseHolds inSegment c)

def segmentRuleHolds (inSegment : String → Run Bool) (c : Context) (s : Segment)
    (rule : SegmentRule) : Run Bool := do
  if ← clausesHold inSegment c rule.clauses then Run.ofExcept (rule.sharesWith s c)
  else return false

def segmentRulesHold (inSegment : String → Run Bool) (c : Context) (s : Segment) : Run Bool :=
  s.rules.anyM (segmentRuleHolds inSegment c s)

def segmentContains (inSegment : String → Run Bool) (c : Context) (s : Segment) : Run Bool :=
  match s.listed? c with
  | some listed => return listed
  | none => segmentRulesHold inSegment c s

/-- Whether the context belongs to a big segment. Its rules count where the membership is silent. -/
def bigSegmentContains (env : Environment) (inSegment : String → Run Bool) (c : Context)
    (s : Segment) : Run Bool := do
  match s.generation with
  | none =>
    Run.mergeStatus .notConfigured
    return false
  | some generation =>
    match c.key? (s.unboundedContextKind.getD Context.defaultKind) with
    | none => return false
    | some contextKey =>
      let membership ← env.membership contextKey
      match membership.bind (Entries.find? (s.generationName generation)) with
      | some included => return included
      | none => segmentRulesHold inSegment c s

def resolveSegment (env : Environment) (inSegment : String → Run Bool) (c : Context)
    (s : Segment) : Run Bool :=
  if s.unbounded then env.bigSegmentContains inSegment c s else segmentContains inSegment c s

/-! ### The path of segments -/

/-- Whether the context belongs to the segment of a key; `path` holds the keys of the segments being
looked at. A key that is not stored names an empty segment. -/
def inSegment (env : Environment) (c : Context) (path : List String) (key : String) : Run Bool :=
  if _hp : key ∈ path then throw (.circularSegment key)
  else do
    Run.ask (.segment key)
    match _hs : Entries.find? key env.data.segments with
    | none => return false
    | some s => env.resolveSegment (fun k => env.inSegment c (key :: path) k) c s
termination_by env.data.segments.offPath path
decreasing_by exact Entries.offPath_cons_lt _hp (Entries.mem_names_of_find? _hs)

end Environment
end FeatureFlags
