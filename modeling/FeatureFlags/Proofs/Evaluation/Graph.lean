import Mathlib.Data.List.Chain
import FeatureFlags.Evaluation.Flag

/-! # References between flags and between segments

A flag refers to its prerequisites, and a segment to the segments that clauses of its rules name.
Chains of keys follow such references through a data set: each key but the first stands in what is
stored under the key before it (`SegmentChain`, `PrerequisiteChain`). A chain of prerequisites
starts at a flag that need not be stored itself.

What is not stored refers to nothing, so a chain ends at the first such key. Chains grow at both
ends: in front, where an evaluation is unfolded from the flag down, and behind, where the path of an
evaluation is the chain that has led there. -/

namespace FeatureFlags

def Clause.segmentKeys (clause : Clause) : List String :=
  if clause.op = .segmentMatch then clause.values.filterMap Json.text? else []

/-- The segments that the rules of a segment name. -/
def Segment.segmentKeys (s : Segment) : List String :=
  s.rules.flatMap fun rule => rule.clauses.flatMap Clause.segmentKeys

def Flag.segmentKeys (f : Flag) : List String :=
  f.rules.flatMap fun rule => rule.clauses.flatMap Clause.segmentKeys

def Flag.prerequisiteKeys (f : Flag) : List String := f.prerequisites.map Prerequisite.key

/-- The flag that is on and, its prerequisites met, serves its own key to everyone. -/
def Flag.named (key : String) (prerequisites : List Prerequisite) : Flag where
  key := key
  version := 1
  on := true
  variations := [.string key]
  offVariation := none
  fallthrough := .fixed 0
  targets := []
  contextTargets := []
  prerequisites := prerequisites
  rules := []
  salt := ""
  trackEvents := false
  trackEventsFallthrough := false
  debugEventsUntilDate := none

theorem Segment.mem_segmentKeys {s : Segment} {rule : SegmentRule} {clause : Clause} {key : String}
    (hr : rule ∈ s.rules) (hc : clause ∈ rule.clauses) (hk : key ∈ clause.segmentKeys) :
    key ∈ s.segmentKeys :=
  List.mem_flatMap.mpr ⟨rule, hr, List.mem_flatMap.mpr ⟨clause, hc, hk⟩⟩

theorem Flag.mem_segmentKeys {f : Flag} {rule : Rule} {clause : Clause} {key : String}
    (hr : rule ∈ f.rules) (hc : clause ∈ rule.clauses) (hk : key ∈ clause.segmentKeys) :
    key ∈ f.segmentKeys :=
  List.mem_flatMap.mpr ⟨rule, hr, List.mem_flatMap.mpr ⟨clause, hc, hk⟩⟩

/-- The last of the keys is this one, and it is not there for the first time. -/
def ComesBackTo (key : String) (keys : List String) : Prop :=
  ∃ before, keys = before ++ [key] ∧ key ∈ before

theorem ComesBackTo.not_nodup {key : String} {keys : List String} (h : ComesBackTo key keys) :
    ¬ keys.Nodup := by
  obtain ⟨before, rfl, hmem⟩ := h
  intro hn
  obtain ⟨-, -, hdisjoint⟩ := List.nodup_append.mp hn
  exact hdisjoint key hmem key List.mem_cons_self rfl

namespace DataSet

def segmentKeysAt (d : DataSet) (key : String) : List String :=
  ((Entries.find? key d.segments).map Segment.segmentKeys).getD []

def prerequisiteKeysAt (d : DataSet) (key : String) : List String :=
  ((Entries.find? key d.flags).map Flag.prerequisiteKeys).getD []

/-- Each segment but the first is named by the one before it. -/
def SegmentChain (d : DataSet) (keys : List String) : Prop :=
  keys.IsChain fun a b => b ∈ d.segmentKeysAt a

/-- The first key is a prerequisite of the flag, and each further one of the flag stored under the
key before it. -/
def PrerequisiteChain (d : DataSet) (f : Flag) (keys : List String) : Prop :=
  (∀ key ∈ keys.head?, key ∈ f.prerequisiteKeys) ∧
    keys.IsChain fun a b => b ∈ d.prerequisiteKeysAt a

variable {d : DataSet} {key : String} {keys : List String}

theorem SegmentChain.singleton : d.SegmentChain [key] := List.IsChain.singleton key

/-- A chain grows in front by a stored segment that names its first key. -/
theorem SegmentChain.cons {s : Segment} {next : String}
    (hs : Entries.find? key d.segments = some s) (hk : next ∈ s.segmentKeys)
    (h : d.SegmentChain (next :: keys)) : d.SegmentChain (key :: next :: keys) := by
  refine List.isChain_cons_cons.mpr ⟨?_, h⟩
  show next ∈ d.segmentKeysAt key
  rw [segmentKeysAt, hs]
  exact hk

theorem PrerequisiteChain.singleton {f : Flag} (hk : key ∈ f.prerequisiteKeys) :
    d.PrerequisiteChain f [key] := by
  refine ⟨?_, List.IsChain.singleton key⟩
  rintro _ ⟨⟩
  exact hk

/-- A chain that starts at a stored flag grows in front by the key of that flag. -/
theorem PrerequisiteChain.cons {f g : Flag} (hk : key ∈ f.prerequisiteKeys)
    (hg : Entries.find? key d.flags = some g) (h : d.PrerequisiteChain g keys) :
    d.PrerequisiteChain f (key :: keys) := by
  refine ⟨?_, ?_⟩
  · rintro _ ⟨⟩
    exact hk
  · refine List.isChain_cons.mpr ⟨?_, h.2⟩
    intro next hnext
    show next ∈ d.prerequisiteKeysAt key
    rw [prerequisiteKeysAt, hg]
    exact h.1 next hnext

/-- A chain grows at its end by what the stored segment of its last key names. -/
theorem SegmentChain.concat {s : Segment} {next : String} (h : d.SegmentChain (keys ++ [key]))
    (hs : Entries.find? key d.segments = some s) (hk : next ∈ s.segmentKeys) :
    d.SegmentChain (keys ++ [key] ++ [next]) := by
  have hlast : d.SegmentChain [key, next] := .cons hs hk .singleton
  exact List.IsChain.append_overlap h hlast (List.cons_ne_nil key [])

/-- A chain grows at its end by the prerequisites of the stored flag of its last key. -/
theorem PrerequisiteChain.concat {f g : Flag} {next : String}
    (h : d.PrerequisiteChain f (keys ++ [key])) (hg : Entries.find? key d.flags = some g)
    (hk : next ∈ g.prerequisiteKeys) : d.PrerequisiteChain f (keys ++ [key] ++ [next]) := by
  refine ⟨?_, ?_⟩
  · rw [List.head?_append_of_ne_nil _ (by simp)]
    exact h.1
  · have hlast : [key, next].IsChain fun a b => b ∈ d.prerequisiteKeysAt a := by
      refine List.isChain_cons_cons.mpr ⟨?_, .singleton next⟩
      rw [prerequisiteKeysAt, hg]
      exact hk
    exact List.IsChain.append_overlap h.2 hlast (List.cons_ne_nil key [])

/-! ## Chains that come back

A chain comes back to a key if it ends in it and has come through it before. -/

def PrerequisitesComeBack (d : DataSet) (f : Flag) (key : String) : Prop :=
  ∃ keys, d.PrerequisiteChain f keys ∧ ComesBackTo key (f.key :: keys)

/-- A chain of segments, the first of them named by the flag, comes back to the key. -/
def SegmentsComeBack (d : DataSet) (f : Flag) (key : String) : Prop :=
  ∃ keys, (∀ first ∈ keys.head?, first ∈ f.segmentKeys) ∧ d.SegmentChain keys ∧
    ComesBackTo key keys

/-! ## Data sets without circular chains

That there is no circle is shown by a rank that goes down along all references. -/

/-- No chain of references, from the flag or between segments, comes back to a key. -/
structure Acyclic (d : DataSet) (f : Flag) : Prop where
  prerequisites : ∀ keys, d.PrerequisiteChain f keys → (f.key :: keys).Nodup
  segments : ∀ keys, d.SegmentChain keys → keys.Nodup

/-- A chain that goes down some rank does not come back to a key. -/
theorem nodup_of_rank {rank : String → Nat} (h : keys.IsChain fun a b => rank b < rank a) :
    keys.Nodup := by
  have hpairs : keys.Pairwise (fun a b => rank b < rank a) := by
    have htrans : Trans (fun a b => rank b < rank a) (fun a b => rank b < rank a)
        (fun a b => rank b < rank a) := ⟨fun hab hbc => Nat.lt_trans hbc hab⟩
    exact List.isChain_iff_pairwise.mp h
  refine hpairs.imp ?_
  rintro a _ hlt rfl
  exact Nat.lt_irrefl _ hlt

/-- If all references go down a rank, no chain comes back to a key. -/
theorem acyclic_of_ranks {f : Flag} (flagRank segmentRank : String → Nat)
    (first : ∀ b ∈ f.prerequisiteKeys, flagRank b < flagRank f.key)
    (flags : ∀ e ∈ d.flags, ∀ b ∈ e.2.prerequisiteKeys, flagRank b < flagRank e.1)
    (segments : ∀ e ∈ d.segments, ∀ b ∈ e.2.segmentKeys, segmentRank b < segmentRank e.1) :
    d.Acyclic f := by
  have hflags : ∀ a b, b ∈ d.prerequisiteKeysAt a → flagRank b < flagRank a := by
    intro a b hb
    unfold prerequisiteKeysAt at hb
    cases hg : Entries.find? a d.flags with
    | none =>
        rw [hg] at hb
        cases hb
    | some g =>
        rw [hg] at hb
        exact flags (a, g) (Entries.mem_of_find? hg) b hb
  have hsegments : ∀ a b, b ∈ d.segmentKeysAt a → segmentRank b < segmentRank a := by
    intro a b hb
    unfold segmentKeysAt at hb
    cases hs : Entries.find? a d.segments with
    | none =>
        rw [hs] at hb
        cases hb
    | some s =>
        rw [hs] at hb
        exact segments (a, s) (Entries.mem_of_find? hs) b hb
  -- The flag itself stands in front of a chain of prerequisites, and nothing does for segments.
  constructor
  · intro keys h
    refine nodup_of_rank (List.isChain_cons.mpr ⟨?_, h.2.imp hflags⟩)
    intro b hb
    exact first b (h.1 b hb)
  · intro keys h
    exact nodup_of_rank (List.IsChain.imp hsegments h)

end DataSet
end FeatureFlags
