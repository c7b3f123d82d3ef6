import FeatureFlags.Proofs.Evaluation.Memberships

/-! # The health that an evaluation reports

A membership comes with the health of the store, and a segment without a generation counts as one
whose store is not configured.

* **What is learnt** (`Source.Tells`) — a run learns nothing else about the health, and it learns as
  soon as it asks: each question tells a status or none (`Source.statusOf`).
* **What is reported** (`IsWorst`) — what a run knows at the end is the worst of what its questions
  told, however it ends.
* **Events** (`Progress.ReportsNoHealth`) — they are reported before the end and carry no health.

So the status of an evaluation is told by its questions alone (`evaluateFor_status`). -/

namespace FeatureFlags

/-! ## The worst status

The statuses are in order, and merging two of them keeps the later one. What is known is merged with
each status that is learnt. -/

namespace BigSegmentsStatus

def ordered : List BigSegmentsStatus := [healthy, stale, storeError, notConfigured]

/-- The worst of some statuses is one of them that none of them comes after. Of no statuses there is
none. -/
def IsWorst (statuses : List BigSegmentsStatus) : Option BigSegmentsStatus → Prop
  | none => statuses = []
  | some worst => worst ∈ statuses ∧ ∀ s ∈ statuses, ordered.idxOf s ≤ ordered.idxOf worst

theorem idxOf_ordered (s : BigSegmentsStatus) : ordered.idxOf s = s.rank := by
  cases s <;> rfl

/-- Merging gives one of the two, and the one that comes later. -/
theorem merge_spec (s t : BigSegmentsStatus) :
    (s.merge t = s ∨ s.merge t = t) ∧ s.rank ≤ (s.merge t).rank ∧ t.rank ≤ (s.merge t).rank := by
  unfold merge
  split
  · next h => exact ⟨.inr rfl, h, Nat.le_refl _⟩
  · next h => exact ⟨.inl rfl, Nat.le_refl _, by omega⟩

theorem IsWorst.learn {statuses : List BigSegmentsStatus} {known : Option BigSegmentsStatus}
    (h : IsWorst statuses known) (s : BigSegmentsStatus) :
    IsWorst (statuses ++ [s]) (learn known s) := by
  cases known with
  | none =>
      obtain rfl : statuses = [] := h
      refine ⟨List.mem_singleton_self s, fun t ht => ?_⟩
      obtain rfl := List.mem_singleton.mp ht
      exact Nat.le_refl _
  | some worst =>
      obtain ⟨hmem, hle⟩ := h
      obtain ⟨hone, hworst, hs⟩ := merge_spec worst s
      refine ⟨?_, fun t ht => ?_⟩
      · show worst.merge s ∈ statuses ++ [s]
        rcases hone with heq | heq
        · rw [heq]
          exact List.mem_append_left _ hmem
        · rw [heq]
          exact List.mem_append_right _ (List.mem_singleton_self s)
      · show ordered.idxOf t ≤ ordered.idxOf (worst.merge s)
        rw [idxOf_ordered, idxOf_ordered]
        rcases List.mem_append.mp ht with hold | hnew
        · have hbefore := hle t hold
          rw [idxOf_ordered, idxOf_ordered] at hbefore
          exact hbefore.trans hworst
        · rw [List.mem_singleton.mp hnew]
          exact hs

/-- What is known after learning one status after the other is the worst of them all. -/
theorem IsWorst.foldl_learn {statuses : List BigSegmentsStatus} {known : Option BigSegmentsStatus}
    (h : IsWorst statuses known) (more : List BigSegmentsStatus) :
    IsWorst (statuses ++ more) (more.foldl BigSegmentsStatus.learn known) := by
  induction more generalizing statuses known with
  | nil => rwa [List.append_nil]
  | cons s more ih =>
      rw [List.append_cons]
      exact ih (h.learn s)

end BigSegmentsStatus

open BigSegmentsStatus (learn IsWorst)

/-! ## What questions tell

All questions of a run are among its progress, so what has been learnt can be compared with what
they tell, from any point of the run to any later one. -/

namespace Source

open Run

/-- The status that a question tells: the health of the store along with a membership, and that it
is not configured if a stored segment has no generation. -/
def statusOf (source : Source) : Query → Option BigSegmentsStatus
  | .flag _ => none
  | .segment key =>
    if (Entries.find? key source.data.segments).any Segment.isUnversioned then some .notConfigured
    else none
  | .membership contextKey => some (source.health contextKey)

def Tells (source : Source) (p q : Progress) : Prop :=
  ∃ asked, q.queries = p.queries ++ asked ∧
    q.status = (asked.filterMap source.statusOf).foldl learn p.status

variable {source : Source} {p : Progress}

theorem tells_isPath (source : Source) : IsPath source.Tells where
  refl p := ⟨[], (List.append_nil _).symm, rfl⟩
  trans := by
    rintro p q r ⟨first, hq, hqs⟩ ⟨second, hr, hrs⟩
    refine ⟨first ++ second, ?_, ?_⟩
    · rw [hr, hq, List.append_assoc]
    · rw [hrs, hqs, List.filterMap_append, List.foldl_append]

/-- A question that tells nothing is asked without learning anything. -/
theorem ask_tells {query : Query} (h : source.statusOf query = none) :
    Moves source.Tells (ask query) := by
  intro p
  refine ⟨[query], rfl, ?_⟩
  rw [List.filterMap_cons_none h]
  rfl

/-- A membership that is remembered is not asked for again, and tells nothing again. -/
theorem askOnce_tells (source : Source) (contextKey : String) :
    Moves source.Tells (source.askOnce contextKey) := by
  intro p
  rw [exec_askOnce]
  cases Entries.find? contextKey p.memberships with
  | some answer => exact source.tells_isPath.refl p
  | none =>
      rw [exec_askAnew_eq]
      exact ⟨[.membership contextKey], rfl, rfl⟩

theorem environment_resolvesWithin (source : Source) (c : Context) :
    source.environment.ResolvesWithin c source.Tells :=
  { source.tells_isPath with
    askSegment := by
      intro key hversioned
      refine ask_tells (if_neg ?_)
      cases hs : Entries.find? key source.data.segments with
      | none => exact Bool.false_ne_true
      | some s => exact hversioned s hs
    -- The segment is told by the question for it, so question and status belong together.
    askUnversioned := by
      intro key s hs hun p
      have hstatus : source.statusOf (.segment key) = some .notConfigured := by
        refine if_pos ?_
        rw [show Entries.find? key source.data.segments = some s from hs]
        exact hun
      rw [exec_bind_ok (exec_ask _ p), exec_mergeStatus]
      refine ⟨[.segment key], rfl, ?_⟩
      rw [List.filterMap_cons_some hstatus]
      rfl
    membership := fun _ contextKey _ => source.askOnce_tells contextKey }

end Source

namespace Environment

open Run (Moves IsPath)

theorem evaluate_tells (source : Source) (policy : EventPolicy) (c : Context) (path : List String)
    (f : Flag) : Moves source.Tells (source.environment.evaluate policy c path f) :=
  evaluate_moves_of source.tells_isPath (fun _ => Source.ask_tells rfl)
    (inSegment_moves_of (source.environment_resolvesWithin c) [])
    (fun _ _ _ _ p => source.tells_isPath.refl p) path f

end Environment

/-! ## Reasons of events

The health is put into the reason of the whole evaluation, when its events have been reported
already. -/

def Progress.ReportsNoHealth (p : Progress) : Prop :=
  ∀ event ∈ p.events, ∀ reason ∈ event.reason, reason.bigSegmentsStatus = none

theorem EventPolicy.reason_event_noHealth {policy : EventPolicy} {g : Flag} {c : Context}
    {d : Detail} {default : Json} {f : Option Flag} (hd : d.withoutHealth = d) :
    ∀ reason ∈ (policy.event g c d default f).reason, reason.bigSegmentsStatus = none := by
  intro reason hreason
  rw [mem_reason_event hreason]
  exact congrArg (fun d => d.reason.bigSegmentsStatus) hd.symm

namespace Environment

theorem evaluate_reportsNoHealth (source : Source) (policy : EventPolicy) (c : Context)
    (path : List String) (f : Flag) :
    Run.Moves (fun p q => p.ReportsNoHealth → q.ReportsNoHealth)
      (source.environment.evaluate policy c path f) :=
  forall_events_evaluate source
    (fun _ _ _ hd => EventPolicy.reason_event_noHealth hd.withoutHealth) path f

/-- **The worst status is reported.** However an evaluation ends, prerequisites included, its
reason carries the worst of the statuses that its questions told, and none if they told none. The
reasons of events carry no status. -/
theorem evaluateFor_status (source : Source) (policy : EventPolicy) (f : Flag) (c : Context) :
    let e := source.environment.evaluateFor policy (some f) c
    IsWorst (e.queries.filterMap source.statusOf) e.detail.reason.bigSegmentsStatus ∧
      ∀ event ∈ e.events, ∀ reason ∈ event.reason, reason.bigSegmentsStatus = none := by
  intro e
  subst e
  obtain ⟨asked, hqueries, hstatus⟩ := evaluate_tells source policy c [f.key] f .start
  rw [evaluateFor_some, Evaluation.status_ofRun, Evaluation.queries_ofRun,
    Evaluation.events_ofRun, hqueries, hstatus]
  have hnothing : IsWorst [] Progress.start.status := rfl
  have hnone : Progress.start.ReportsNoHealth := List.forall_mem_nil _
  exact ⟨hnothing.foldl_learn _, evaluate_reportsNoHealth source policy c [f.key] f .start hnone⟩

end Environment
end FeatureFlags
