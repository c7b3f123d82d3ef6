import FeatureFlags.Bucket
import FeatureFlags.Evaluation.Run

/-!
# What a rule serves

A rollout lays its shares end to end from zero on, each as long as its weight over `weightScale`,
and the bucket of the context says into which of them it falls (`pick`, `Rollout.shareAt`). A share
takes in its beginning and not its end. The last share also takes what lies beyond.

Nothing is served, and the evaluation fails, if there is neither a variation nor a rollout, if the
rollout has no shares, or if the attribute to bucket by is no valid reference.
-/

namespace FeatureFlags

def weightScale : Float := 100000

/-- The first of some stretches, laid end to end from `start`, that ends behind a point. -/
def pick {α β : Type} [Add α] [LT α] [DecidableLT α] (length : β → α) (point start : α) :
    List β → Option β
  | [] => none
  | b :: bs =>
    if point < start + length b then some b else pick length point (start + length b) bs

namespace Rollout

/-- The attribute to bucket by. Experiments always use the key. -/
def bucketReference (r : Rollout) : Reference :=
  if r.kind = .experiment then ⟨"key"⟩ else r.bucketBy.getD ⟨"key"⟩

/-- The share of a bucket, `last` if none of them reaches it. -/
def shareAt (r : Rollout) (last : Share) (bucket : Float) : Share :=
  (pick (fun s : Share => s.weight / weightScale) bucket 0 r.shares).getD last

end Rollout

/-- The variation that a context is served, and whether an experiment serves it. -/
def Serving.variationFor (s : Serving) (c : Context) (key salt : String) :
    Except EvaluationError (Int64 × Bool) :=
  match s.variation, s.rollout with
  | some variation, _ => .ok (variation, false)
  | none, none => .error .missingVariationOrRollout
  | none, some r =>
    match r.shares.getLast? with
    | none => .error .emptyRollout
    | some last =>
      let reference := r.bucketReference
      if reference.isValid then
        let (bucket, found) := Bucket.ofContext c key reference salt r.seed r.contextKind
        let share := r.shareAt last bucket
        .ok (share.variation, r.kind == .experiment && found && !share.untracked)
      else .error (.invalidReference reference.text)

end FeatureFlags
