import FeatureFlags.Proofs.Evaluation.Reading

/-! # The footprint of flags and segments

What a flag or a segment reads of a context lies within what its parts name. These are three things,
and each is easier to tell from the data than all that is read.

* **Kinds** (`usedKinds`) — the kinds of clauses, of rollouts, of targets and of lists of members,
  with the default kind where none is named.
* **Clauses** (`clauses`) — those whose attribute is the kind read the list of kinds.
* **References to bucket by** (`bucketReferences`) — one of these may be the kind, read as an
  attribute.

The footprint is collected for each part from its own parts, and what is read of a part lies within
the footprint (`Flag.reads_within`, `Segment.reads_within`, `DataSet.reads_within`). -/

namespace FeatureFlags

/-! ## What is named

The same three lists for flags, segments and data sets, put together along their parts. -/

/-- The kind that a clause is about. -/
def Clause.kind (clause : Clause) : String := clause.contextKind.getD Context.defaultKind

def Clause.testsKind (clause : Clause) : Bool := clause.reference.any Reference.isKind

/-- The kind of the rollout, if there is one. -/
def Serving.usedKinds (s : Serving) : List String :=
  s.rollout.toList.map fun r => r.contextKind.getD Context.defaultKind

/-- The kinds that a flag uses. Its targets are users. -/
def Flag.usedKinds (f : Flag) : List String :=
  f.targets.map (fun _ => Context.defaultKind) ++
    f.contextTargets.map (fun t => t.contextKind.getD Context.defaultKind) ++
    f.rules.flatMap (fun rule => rule.clauses.map Clause.kind ++ rule.serving.usedKinds) ++
    f.fallthrough.usedKinds

def Flag.clauses (f : Flag) : List Clause := f.rules.flatMap Rule.clauses

def SegmentRule.usedKinds (rule : SegmentRule) : List String :=
  rule.clauses.map Clause.kind ++
    if rule.weight.isSome then [rule.rolloutContextKind.getD Context.defaultKind] else []

/-- The kinds that a segment uses. What it includes and excludes by itself are users. -/
def Segment.usedKinds (s : Segment) : List String :=
  (s.included ++ s.excluded).map (fun _ => Context.defaultKind) ++
    (s.includedContexts ++ s.excludedContexts).map
      (fun t => t.contextKind.getD Context.defaultKind) ++
    (if s.unbounded then [s.unboundedContextKind.getD Context.defaultKind] else []) ++
    s.rules.flatMap SegmentRule.usedKinds

def Segment.clauses (s : Segment) : List Clause := s.rules.flatMap SegmentRule.clauses

/-- The kinds that anything stored uses. -/
def DataSet.usedKinds (d : DataSet) : List String :=
  d.flags.flatMap (fun e => e.2.usedKinds) ++ d.segments.flatMap (fun e => e.2.usedKinds)

def DataSet.clauses (d : DataSet) : List Clause :=
  d.flags.flatMap (fun e => e.2.clauses) ++ d.segments.flatMap (fun e => e.2.clauses)

/-- The reference that a rollout names to bucket by. -/
def Serving.bucketReferences (s : Serving) : List Reference :=
  (s.rollout.bind Rollout.bucketBy).toList

def Flag.bucketReferences (f : Flag) : List Reference :=
  f.rules.flatMap (fun rule => rule.serving.bucketReferences) ++ f.fallthrough.bucketReferences

def Segment.bucketReferences (s : Segment) : List Reference :=
  s.rules.filterMap SegmentRule.bucketBy

def DataSet.bucketReferences (d : DataSet) : List Reference :=
  d.flags.flatMap (fun e => e.2.bucketReferences) ++
    d.segments.flatMap (fun e => e.2.bucketReferences)

/-! ## What is read lies within

That something lies within a footprint is kept when the footprint grows, so parts can be looked at
one by one and put together (`ContextRead.within_append`, `ContextRead.within_flatMap`). -/

/-- What is read is a part of one of the kinds, or the list of kinds for one of the clauses; if it
is the kind as an attribute, it is one of the references. -/
def ContextRead.Within (kinds : List String) (clauses : List Clause) (references : List Reference) :
    ContextRead → Prop
  | .kinds => ∃ clause ∈ clauses, clause.testsKind = true
  | .key kind => kind ∈ kinds
  | .value kind reference => kind ∈ kinds ∧ (reference.isKind = true → reference ∈ references)

open ContextRead (Within)

theorem ContextRead.Within.mono {r : ContextRead} {kinds kinds' : List String}
    {clauses clauses' : List Clause} {references references' : List Reference}
    (h : r.Within kinds clauses references) (hkinds : kinds ⊆ kinds')
    (hclauses : clauses ⊆ clauses') (hreferences : references ⊆ references') :
    r.Within kinds' clauses' references' := by
  cases r with
  | kinds =>
      obtain ⟨clause, hmem, htests⟩ := h
      exact ⟨clause, hclauses hmem, htests⟩
  | key kind => exact hkinds h
  | value kind reference => exact ⟨hkinds h.1, fun hkind => hreferences (h.2 hkind)⟩

section

variable {reads₁ reads₂ : List ContextRead} {kinds₁ kinds₂ : List String}
  {clauses₁ clauses₂ : List Clause} {references₁ references₂ : List Reference}

/-- What two parts read lies within what either names. -/
theorem ContextRead.within_append
    (h₁ : ∀ r ∈ reads₁, r.Within kinds₁ clauses₁ references₁)
    (h₂ : ∀ r ∈ reads₂, r.Within kinds₂ clauses₂ references₂) :
    ∀ r ∈ reads₁ ++ reads₂,
      r.Within (kinds₁ ++ kinds₂) (clauses₁ ++ clauses₂) (references₁ ++ references₂) := by
  intro r hr
  rcases List.mem_append.mp hr with hr | hr
  · exact (h₁ r hr).mono (List.subset_append_left _ _) (List.subset_append_left _ _)
      (List.subset_append_left _ _)
  · exact (h₂ r hr).mono (List.subset_append_right _ _) (List.subset_append_right _ _)
      (List.subset_append_right _ _)

variable {α : Type} (xs : List α) {kinds : α → List String} {clauses : α → List Clause}
  {references : α → List Reference}

/-- What many parts read lies within what any of them names. -/
theorem ContextRead.within_flatMap {reads : α → List ContextRead}
    (h : ∀ x, ∀ r ∈ reads x, r.Within (kinds x) (clauses x) (references x)) :
    ∀ r ∈ xs.flatMap reads,
      r.Within (xs.flatMap kinds) (xs.flatMap clauses) (xs.flatMap references) := by
  intro r hr
  obtain ⟨x, hx, hr⟩ := List.mem_flatMap.mp hr
  exact (h x r hr).mono (fun kind hkind => List.mem_flatMap.mpr ⟨x, hx, hkind⟩)
    (fun clause hc => List.mem_flatMap.mpr ⟨x, hx, hc⟩)
    fun reference href => List.mem_flatMap.mpr ⟨x, hx, href⟩

/-- Lists of keys read keys only. -/
theorem ContextRead.within_map_key (kind : α → String) :
    ∀ r ∈ xs.map fun x => ContextRead.key (kind x), r.Within (xs.map kind) [] [] := by
  intro r hr
  obtain ⟨x, hx, rfl⟩ := List.mem_map.mp hr
  exact List.mem_map_of_mem hx

end

open ContextRead (within_append within_flatMap within_map_key)

/-- A clause reads the kinds where its attribute is the kind. -/
theorem Clause.reads_within (clause : Clause) :
    ∀ r ∈ clause.reads, r.Within [clause.kind] [clause] [] := by
  intro r hr
  unfold reads at hr
  split at hr
  · cases hr
  · cases hreference : clause.reference with
    | none =>
        rw [hreference] at hr
        cases hr
    | some reference =>
        rw [hreference] at hr
        dsimp only at hr
        -- The kind is read as the list of kinds, any other attribute as the value of a part.
        split at hr
        · next hkind =>
          obtain rfl := List.mem_singleton.mp hr
          exact ⟨clause, List.mem_singleton.mpr rfl, by rw [testsKind, hreference]; exact hkind⟩
        · next hkind =>
          obtain rfl := List.mem_singleton.mp hr
          exact ⟨List.mem_singleton.mpr rfl, fun h => absurd h hkind⟩

theorem Clause.flatMap_reads_within (clauses : List Clause) :
    ∀ r ∈ clauses.flatMap Clause.reads, r.Within (clauses.map Clause.kind) clauses [] := by
  intro r hr
  obtain ⟨clause, hmem, hr⟩ := List.mem_flatMap.mp hr
  exact (clause.reads_within r hr).mono
    (List.cons_subset.mpr ⟨List.mem_map_of_mem hmem, List.nil_subset _⟩)
    (List.cons_subset.mpr ⟨hmem, List.nil_subset _⟩) (List.Subset.refl _)

/-- Where nothing is named to bucket by, the key is bucketed by. -/
theorem Reference.mem_of_getD_key {bucketBy : Option Reference}
    (h : (bucketBy.getD ⟨"key"⟩).isKind = true) : bucketBy.getD ⟨"key"⟩ ∈ bucketBy.toList := by
  cases bucketBy with
  | none => exact absurd h (by decide)
  | some reference => exact List.mem_singleton.mpr rfl

theorem Serving.reads_within (s : Serving) :
    ∀ r ∈ s.reads, r.Within s.usedKinds [] s.bucketReferences := by
  obtain ⟨variation, rollout⟩ := s
  cases variation with
  | some variation => exact nofun
  | none =>
      cases rollout with
      | none => exact nofun
      | some rollout =>
          intro r hr
          obtain rfl := List.mem_singleton.mp hr
          refine ⟨List.mem_singleton.mpr rfl, fun hkind => ?_⟩
          unfold Rollout.bucketReference at hkind ⊢
          split at hkind
          · exact absurd hkind (by decide)
          · next hne =>
            rw [if_neg hne]
            exact Reference.mem_of_getD_key hkind

theorem Flag.reads_within (f : Flag) :
    ∀ r ∈ f.reads, r.Within f.usedKinds f.clauses f.bucketReferences := by
  have htargets := within_map_key f.targets fun _ => Context.defaultKind
  have hcontexts := within_map_key f.contextTargets fun t => t.contextKind.getD Context.defaultKind
  have hrules := within_flatMap f.rules fun rule =>
    within_append (Clause.flatMap_reads_within rule.clauses) rule.serving.reads_within
  have hall := within_append (within_append (within_append htargets hcontexts) hrules)
    f.fallthrough.reads_within
  simp only [List.nil_append, List.append_nil] at hall
  exact hall

theorem SegmentTarget.listReads_within (userKeys : List String) (targets : List SegmentTarget) :
    ∀ r ∈ listReads userKeys targets,
      r.Within (userKeys.map (fun _ => Context.defaultKind) ++
        targets.map fun t => t.contextKind.getD Context.defaultKind) [] [] :=
  within_append (within_map_key userKeys _) (within_map_key targets _)

theorem SegmentRule.reads_within (rule : SegmentRule) :
    ∀ r ∈ rule.reads, r.Within rule.usedKinds rule.clauses rule.bucketBy.toList := by
  intro r hr
  rcases List.mem_append.mp hr with hr | hr
  · exact (Clause.flatMap_reads_within _ r hr).mono (List.subset_append_left _ _)
      (List.Subset.refl _) (List.nil_subset _)
  · split at hr
    · next hweight =>
      obtain rfl := List.mem_singleton.mp hr
      refine ⟨List.mem_append_right _ ?_, Reference.mem_of_getD_key⟩
      rw [if_pos hweight]
      exact List.mem_singleton.mpr rfl
    · cases hr

theorem Segment.reads_within (s : Segment) :
    ∀ r ∈ s.reads, r.Within s.usedKinds s.clauses s.bucketReferences := by
  intro r hr
  rcases List.mem_append.mp hr with hr | hr
  · split at hr
    · next hunbounded =>
      obtain rfl := List.mem_singleton.mp hr
      simp [Within, usedKinds, hunbounded]
    · -- The lists of users stand before those of contexts among the kinds.
      have hlists := within_append
        (SegmentTarget.listReads_within s.included s.includedContexts)
        (SegmentTarget.listReads_within s.excluded s.excludedContexts) r hr
      refine hlists.mono (fun kind hkind => ?_) (List.nil_subset _) (List.nil_subset _)
      simp only [usedKinds, List.map_append, List.mem_append] at hkind ⊢
      tauto
  · have hrules := within_flatMap s.rules SegmentRule.reads_within r hr
    refine hrules.mono (List.subset_append_right _ _) (List.Subset.refl _) fun reference href => ?_
    obtain ⟨rule, hrule, href⟩ := List.mem_flatMap.mp href
    exact List.mem_filterMap.mpr ⟨rule, hrule, Option.mem_toList.mp href⟩

theorem DataSet.reads_within (d : DataSet) :
    ∀ r ∈ d.reads, r.Within d.usedKinds d.clauses d.bucketReferences :=
  within_append (within_flatMap d.flags fun e => e.2.reads_within)
    (within_flatMap d.segments fun e => e.2.reads_within)

/-! ## A flag together with what is stored

An evaluation can read what the flag reads and what anything stored reads. -/

namespace Source

/-- The kinds that the flag or anything stored uses. -/
def usedKinds (source : Source) (f : Flag) : List String := f.usedKinds ++ source.data.usedKinds

def clauses (source : Source) (f : Flag) : List Clause := f.clauses ++ source.data.clauses

def bucketReferences (source : Source) (f : Flag) : List Reference :=
  f.bucketReferences ++ source.data.bucketReferences

end Source

/-- Contexts that agree on all that lies within what the flag and the stored data name are evaluated
alike. -/
theorem Environment.evaluateFor_of_agreesWithin {source : Source} (policy : EventPolicy) {f : Flag}
    {c₁ c₂ : Context} (h : ∀ r : ContextRead, r.Within (source.usedKinds f) (source.clauses f)
      (source.bucketReferences f) → c₁.AgreesOn c₂ r) :
    (source.environment.evaluateFor policy (some f) c₁).SameButEvents
      (source.environment.evaluateFor policy (some f) c₂) := by
  refine evaluateFor_of_agreesOn source policy (fun r hr => h r ?_) fun r hr => h r ?_
  · exact (f.reads_within r hr).mono (List.subset_append_left _ _) (List.subset_append_left _ _)
      (List.subset_append_left _ _)
  · exact (source.data.reads_within r hr).mono (List.subset_append_right _ _)
      (List.subset_append_right _ _) (List.subset_append_right _ _)

end FeatureFlags
