import Mathlib.Data.List.Dedup
import Mathlib.Data.List.Perm.Subperm
import FeatureFlags.Proofs.Evaluation.Graph
import FeatureFlags.Proofs.Evaluation.Unfolding

/-! # How deep an evaluation goes

Whatever circles the references of a data set make, an evaluation is over after finitely many steps.
Its depth is bounded by the number of stored keys, since each level takes one more of them into its
path.

To say so of the evaluator itself, `evaluateWithin` and `inSegmentWithin` do the same within limits,
and run something else as soon as a limit is exceeded. They agree with the evaluator, no matter what
that something is (`evaluateWithin_nameCount`): so the limits are never exceeded.

The limits are a little above the number of stored keys. The first flag need not be stored, which
makes one flag more, and a rule may name a segment that is not stored, which makes one call more
(`evaluateWithin_ne_of_unstored`). -/

namespace FeatureFlags

/-! ## Paths of stored keys

A path without repetition is as long as the set of its keys, and this is a set of stored names. -/

namespace Entries

variable {α : Type} {es : Entries α} {path : List String}

def nameCount (es : Entries α) : Nat := es.names.dedup.length

theorem length_le_nameCount (hn : path.Nodup) (hs : path ⊆ es.names) :
    path.length ≤ es.nameCount := by
  have hsub : path ⊆ es.names.dedup := fun name hname => List.mem_dedup.mpr (hs hname)
  exact (hn.subperm hsub).length_le

/-- One name on the path need not be stored. -/
theorem length_le_nameCount_succ {first : String} (hn : path.Nodup)
    (hs : path ⊆ first :: es.names) : path.length ≤ es.nameCount + 1 := by
  have hsub : path.erase first ⊆ es.names := by
    intro name hname
    obtain ⟨hne, hmem⟩ := (List.Nodup.mem_erase_iff hn).mp hname
    exact (List.mem_cons.mp (hs hmem)).resolve_left hne
  have hrest : (path.erase first).length ≤ es.nameCount := length_le_nameCount (hn.erase first) hsub
  have herase : path.length - 1 ≤ (path.erase first).length := List.le_length_erase
  omega

end Entries

namespace Environment

/-! ## Evaluating within limits

Both functions have the recursion of the evaluator, with a number of calls that goes down at each
level. -/

/-- Look for the context in a segment within limits: `calls` may be nested at most, and `stored` at
most is the number of segments being looked at, no key among them twice. -/
def inSegmentWithin (env : Environment) (c : Context) (stop : Run Bool) (stored : Nat) :
    Nat → List String → String → Run Bool
  | 0, _, _ => stop
  | calls + 1, path, key => env.lookUpSegment path key fun s =>
      if (key :: path).Nodup ∧ (key :: path).length ≤ stored then
        env.resolveSegment (env.inSegmentWithin c stop stored calls (key :: path)) c s
      else stop

/-- Evaluate a flag within limits: `calls` may be nested at most, and the path has no key twice. -/
def evaluateWithin (env : Environment) (policy : EventPolicy) (c : Context) (stop : Run Detail)
    (inSegment : String → Run Bool) : Nat → List String → Flag → Run Detail
  | 0, _, _ => stop
  | calls + 1, path, f =>
      if path.Nodup then
        env.evaluateStep policy c (env.evaluateWithin policy c stop inSegment calls) inSegment path
          f
      else stop

/-! ## The limits are not exceeded

By induction on the calls that are left. They and the length of the path always make up the same
number, which is greater than the length of any path of stored keys. So there is a call left. -/

variable {env : Environment} {policy : EventPolicy} {c : Context}

/-- The nested calls that are left and the segments being looked at make up the limit. -/
theorem inSegmentWithin_eq (stop : Run Bool) {calls : Nat} {path : List String} (hn : path.Nodup)
    (hs : path ⊆ env.data.segments.names)
    (hcalls : path.length + calls = env.data.segments.nameCount + 1) (key : String) :
    env.inSegmentWithin c stop env.data.segments.nameCount calls path key
      = env.inSegment c path key := by
  induction calls generalizing path key with
  | zero =>
      -- The path would have more keys than are stored.
      have hlen := Entries.length_le_nameCount hn hs
      omega
  | succ calls ih =>
      rw [inSegment_eq, inSegmentWithin]
      refine lookUpSegment_congr fun hp s hfound => ?_
      have hn' : (key :: path).Nodup := List.nodup_cons.mpr ⟨hp, hn⟩
      have hs' : key :: path ⊆ env.data.segments.names :=
        List.cons_subset.mpr ⟨Entries.mem_names_of_find? hfound, hs⟩
      have hdeeper : env.inSegmentWithin c stop env.data.segments.nameCount calls (key :: path)
          = env.inSegment c (key :: path) := by
        funext next
        refine ih hn' hs' ?_ next
        rw [List.length_cons]
        omega
      rw [if_pos ⟨hn', Entries.length_le_nameCount hn' hs'⟩, hdeeper]

/-- The nested calls that are left and the flags being evaluated make up the limit, where the first
flag need not be stored. -/
theorem evaluateWithin_eq (stop : Run Detail) {calls : Nat} {first : String} {path : List String}
    (hn : path.Nodup) (hs : path ⊆ first :: env.data.flags.names)
    (hcalls : path.length + calls = env.data.flags.nameCount + 2) (f : Flag) :
    env.evaluateWithin policy c stop (env.inSegment c []) calls path f
      = env.evaluate policy c path f := by
  induction calls generalizing path f with
  | zero =>
      -- The path would have two keys more than are stored, but only `first` need not be.
      have hlen := Entries.length_le_nameCount_succ hn hs
      omega
  | succ calls ih =>
      have hmeets : ∀ p, env.meets policy c
          (env.evaluateWithin policy c stop (env.inSegment c []) calls) path f p
            = env.meets policy c (env.evaluate policy c) path f p := by
        intro p
        refine meets_congr fun hp g hfound => ?_
        refine ih (List.nodup_cons.mpr ⟨hp, hn⟩) ?_ ?_ g
        · exact List.cons_subset.mpr
            ⟨List.mem_cons_of_mem first (Entries.mem_names_of_find? hfound), hs⟩
        · rw [List.length_cons]
          omega
      rw [evaluate_eq_evaluateStep, evaluateWithin, if_pos hn, evaluateStep, evaluateStep,
        funext hmeets]

/-- **The depth of an evaluation.** Whatever flags and segments refer to, at most one evaluation
more than there are stored flags is nested, as the first flag need not be stored, and no key stands
twice on the path to them. The segments being looked at are different and stored; a call beyond
them, which finds its key on the path or not stored, is answered at once. -/
theorem evaluateWithin_nameCount (env : Environment) (policy : EventPolicy) (c : Context) (f : Flag)
    (stopFlag : Run Detail) (stopSegment : Run Bool) :
    env.evaluateWithin policy c stopFlag
        (env.inSegmentWithin c stopSegment env.data.segments.nameCount
          (env.data.segments.nameCount + 1) [])
        (env.data.flags.nameCount + 1) [f.key] f
      = env.evaluate policy c [f.key] f := by
  have hsegments : env.inSegmentWithin c stopSegment env.data.segments.nameCount
      (env.data.segments.nameCount + 1) [] = env.inSegment c [] := by
    funext key
    refine inSegmentWithin_eq stopSegment List.nodup_nil (List.nil_subset _) ?_ key
    rw [List.length_nil]
    omega
  rw [hsegments]
  have hpath : [f.key] ⊆ f.key :: env.data.flags.names :=
    List.cons_subset.mpr ⟨List.mem_cons_self, List.nil_subset _⟩
  refine evaluateWithin_eq stopFlag (List.nodup_singleton f.key) hpath ?_ f
  rw [List.length_singleton]
  omega

/-- As many nested calls as there are stored segments would not do: a rule may name a segment where
none is stored, and then one call finds that out. -/
theorem evaluateWithin_ne_of_unstored :
    let source : Source := ⟨⟨[], []⟩, fun _ => none⟩
    let names : Clause := ⟨none, none, .segmentMatch, [.string "unstored"], false⟩
    let f : Flag := { Flag.named "f" [] with rules := [⟨none, [names], .fixed 0, false⟩] }
    let c : Context := ⟨[("key", .string "u")], true⟩
    source.environment.data.segments.nameCount = 0 ∧
      (source.environment.evaluateFor default (some f) c).queries = [.segment "unstored"] ∧
      source.environment.evaluateWithin default c (throw .flagNotFound)
          (source.environment.inSegmentWithin c (throw (.circularSegment "unstored")) 0 0 [])
          (source.environment.data.flags.nameCount + 1) [f.key] f
        ≠ source.environment.evaluate default c [f.key] f := by
  intro source names f c
  refine ⟨rfl, by decide +kernel, fun h => ?_⟩
  have hrun := congrArg (fun run => (Run.exec run .start).1.isOk) h
  have hwithin : (Run.exec (source.environment.evaluateWithin default c (throw .flagNotFound)
      (source.environment.inSegmentWithin c (throw (.circularSegment "unstored")) 0 0 [])
      (source.environment.data.flags.nameCount + 1) [f.key] f) .start).1.isOk = false := by
    decide +kernel
  have hfull : (Run.exec (source.environment.evaluate default c [f.key] f) .start).1.isOk
      = true := by
    decide +kernel
  rw [hwithin, hfull] at hrun
  cases hrun

end Environment
end FeatureFlags
