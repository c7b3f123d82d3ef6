import FeatureFlags.Proofs.Evaluation.Effect
import FeatureFlags.Proofs.Evaluation.Progress

/-! # Asking for memberships once

An evaluation that remembers memberships comes to the same as one that asks for them every time.

* **The same effects** — both evaluations have the same effects, and differ in what an effect does:
  the one that consults a membership asks for it, or remembers.
* **Nothing new** (`Source.Agrees`) — an answer that is asked for again tells nothing new about the
  health of the store, since merging a status twice is merging it once.
* **Once** (`Progress.AskedOnce`) — what is remembered is also what has been asked for, and a part
  of the context each time; so no context is asked for twice.

These are put together in `evaluateFor_once`. -/

namespace FeatureFlags

/-! ## The health of the store

What is known is merged with what is learnt, and statuses are merged in any order with one
result. -/

namespace BigSegmentsStatus

def learn (known : Option BigSegmentsStatus) (s : BigSegmentsStatus) : Option BigSegmentsStatus :=
  some ((known.map fun t => t.merge s).getD s)

theorem learn_learn_self (known : Option BigSegmentsStatus) (s : BigSegmentsStatus) :
    learn (learn known s) s = learn known s := by
  rcases known with _ | t
  · cases s <;> rfl
  · cases s <;> cases t <;> rfl

/-- The order in which statuses are learnt does not matter. -/
theorem learn_right_comm (known : Option BigSegmentsStatus) (s t : BigSegmentsStatus) :
    learn (learn known s) t = learn (learn known t) s := by
  rcases known with _ | u
  · cases s <;> cases t <;> rfl
  · cases s <;> cases t <;> cases u <;> rfl

end BigSegmentsStatus

open BigSegmentsStatus (learn learn_learn_self learn_right_comm)

/-! ## One run that remembers, and one that does not

Effect by effect: both have reported the same events and know the same of the health. -/

namespace Source

open Run

def health (source : Source) (contextKey : String) : BigSegmentsStatus :=
  ((source.membership? contextKey).map Prod.snd).getD .notConfigured

theorem exec_askAnew_eq (source : Source) (contextKey : String) (p : Progress) :
    exec (source.askAnew contextKey) p = (.ok (source.answer contextKey),
      { p with
        queries := p.queries ++ [.membership contextKey]
        status := learn p.status (source.health contextKey) }) := by
  unfold askAnew answer health
  rw [exec_bind, exec_ask]
  cases source.membership? contextKey with
  | none => rfl
  | some found => rfl

/-- The two have gathered the same, and what the first remembers tells nothing new. -/
structure Agrees (source : Source) (p q : Progress) : Prop where
  events : p.events = q.events
  status : p.status = q.status
  learnt : ∀ contextKey ∈ Entries.names p.memberships,
    learn p.status (source.health contextKey) = p.status

theorem agrees_start (source : Source) : source.Agrees .start .start := ⟨rfl, rfl, nofun⟩

/-- An effect keeps the two in agreement, though the second asks where the first remembers. -/
theorem Agrees.act {source : Source} {p q : Progress} (h : source.Agrees p q) (e : Effect) :
    source.Agrees (source.environment.act p e) (source.environmentAnew.act q e) := by
  have hlearn : ∀ s, ∀ contextKey ∈ Entries.names p.memberships,
      learn (learn p.status s) (source.health contextKey) = learn p.status s := by
    intro s contextKey hmem
    rw [learn_right_comm, h.learnt contextKey hmem]
  cases e with
  | ask query => exact ⟨h.events, h.status, h.learnt⟩
  | report event => exact ⟨congrArg (· ++ [event]) h.events, h.status, h.learnt⟩
  | learn s => exact ⟨h.events, congrArg (learn · s) h.status, hlearn s⟩
  | consult contextKey =>
      have hanew : source.environmentAnew.act q (.consult contextKey) = { q with
          queries := q.queries ++ [.membership contextKey]
          status := learn q.status (source.health contextKey) } :=
        congrArg Prod.snd (source.exec_askAnew_eq contextKey q)
      have honce : source.environment.act p (.consult contextKey)
          = (exec (source.askOnce contextKey) p).2 := rfl
      rw [hanew, honce, exec_askOnce]
      cases hfound : Entries.find? contextKey p.memberships with
      | some a =>
          refine ⟨h.events, ?_, h.learnt⟩
          show p.status = learn q.status (source.health contextKey)
          rw [← h.status, h.learnt contextKey (Entries.mem_names_of_find? hfound)]
      -- Asked for the first time, it is remembered, and from now on it tells nothing new either.
      | none =>
          rw [exec_askAnew_eq]
          refine ⟨h.events, congrArg (learn · _) h.status, fun other hother => ?_⟩
          show learn (learn p.status _) (source.health other) = learn p.status _
          replace hother : other ∈ Entries.names (Entries.insert contextKey _ p.memberships) :=
            hother
          rw [Entries.names_insert] at hother
          split at hother
          · exact hlearn _ other hother
          · rcases List.mem_append.mp hother with hmem | hnew
            · exact hlearn _ other hmem
            · obtain rfl := List.mem_singleton.mp hnew
              exact learn_learn_self _ _

theorem Agrees.foldl_act {source : Source} (es : List Effect) {p q : Progress}
    (h : source.Agrees p q) :
    source.Agrees (es.foldl source.environment.act p) (es.foldl source.environmentAnew.act q) := by
  induction es generalizing p q with
  | nil => exact h
  | cons e es ih => exact ih (h.act e)

end Source

/-! ## What has been asked for

The keys that are remembered are the keys that have been asked for, in the same order. -/

def Query.contextKey? : Query → Option String
  | membership contextKey => some contextKey
  | _ => none

/-- The contexts whose memberships an evaluation asks for, in order. -/
def Evaluation.contextKeys (e : Evaluation) : List String := e.queries.filterMap Query.contextKey?

/-- What is remembered is what has been asked for: parts of the context, none of them twice. -/
structure Progress.AskedOnce (c : Context) (p : Progress) : Prop where
  asked : p.queries.filterMap Query.contextKey? = Entries.names p.memberships
  nodup : (Entries.names p.memberships).Nodup
  own : ∀ contextKey ∈ Entries.names p.memberships, ∃ kind, c.key? kind = some contextKey

/-- Asking for a part of the context, or remembering it, keeps to what has been asked for. -/
theorem Source.askedOnce_askOnce (source : Source) {c : Context} {kind contextKey : String}
    (hkey : c.key? kind = some contextKey) {p : Progress} (h : p.AskedOnce c) :
    (Run.exec (source.askOnce contextKey) p).2.AskedOnce c := by
  rw [exec_askOnce]
  cases hfound : Entries.find? contextKey p.memberships with
  | some a => exact h
  | none =>
      have hnew : contextKey ∉ Entries.names p.memberships := Entries.find?_eq_none_iff.mp hfound
      have hnames : Entries.names (Entries.insert contextKey (source.answer contextKey)
          p.memberships) = Entries.names p.memberships ++ [contextKey] := by
        rw [Entries.names_insert, if_neg hnew]
      rw [exec_askAnew_eq]
      refine ⟨?_, Entries.nodup_names_insert h.nodup contextKey _, ?_⟩
      · show (p.queries ++ [Query.membership contextKey]).filterMap Query.contextKey?
          = Entries.names (Entries.insert contextKey (source.answer contextKey) p.memberships)
        rw [hnames, List.filterMap_append, h.asked]
        rfl
      · intro other hother
        replace hother : other ∈ Entries.names (Entries.insert contextKey
          (source.answer contextKey) p.memberships) := hother
        rw [hnames] at hother
        rcases List.mem_append.mp hother with hmem | hlast
        · exact h.own other hmem
        · obtain rfl := List.mem_singleton.mp hlast
          exact ⟨kind, hkey⟩

namespace Environment

variable {source : Source} {policy : EventPolicy} {c : Context}

/-- However an evaluation ends, what it remembers is what it has asked for. -/
theorem evaluate_askedOnce (source : Source) (policy : EventPolicy) (c : Context)
    (path : List String) (f : Flag) :
    (Run.exec (source.environment.evaluate policy c path f) .start).2.AskedOnce c := by
  have hask : ∀ (q : Query) (p : Progress), q.contextKey? = none → p.AskedOnce c →
      (Run.exec (Run.ask q) p).2.AskedOnce c := by
    intro q p hq h
    refine ⟨?_, h.nodup, h.own⟩
    show (p.queries ++ [q]).filterMap Query.contextKey? = _
    rw [List.filterMap_append, List.filterMap_cons_none hq, List.filterMap_nil, List.append_nil]
    exact h.asked
  have hwithin : source.environment.EvaluatesWithin policy c
      fun p q => p.AskedOnce c → q.AskedOnce c :=
    { refl := fun _ h => h
      trans := fun _ _ _ hpq hqr h => hqr (hpq h)
      askSegment := fun key p => hask (.segment key) p rfl
      askFlag := fun key p => hask (.flag key) p rfl
      mergeStatus := fun _ _ h => ⟨h.asked, h.nodup, h.own⟩
      membership := fun _ _ hkey _ h => source.askedOnce_askOnce hkey h
      report := fun _ _ _ _ h => ⟨h.asked, h.nodup, h.own⟩ }
  exact evaluate_moves hwithin path f .start ⟨rfl, List.nodup_nil, nofun⟩

/-- **Memberships are asked for once.** An evaluation that remembers memberships comes to the same
detail, health included, and the same events and error as one that asks for them every time. It asks
for no context twice, whatever fails on the way, and only for parts of the evaluated context. -/
theorem evaluateFor_once (source : Source) (policy : EventPolicy) (f : Option Flag) (c : Context) :
    let once := source.environment.evaluateFor policy f c
    let anew := source.environmentAnew.evaluateFor policy f c
    once.detail = anew.detail ∧ once.events = anew.events ∧ once.error = anew.error ∧
      once.contextKeys.Nodup ∧
      ∀ contextKey ∈ once.contextKeys, ∃ kind, c.key? kind = some contextKey := by
  cases f with
  | none => exact ⟨rfl, rfl, rfl, List.nodup_nil, nofun⟩
  | some f =>
      obtain ⟨r, es, honce, hanew⟩ := evaluate_alike source.environment_reads
        source.environmentAnew_reads policy c [f.key] f
      have hagrees := source.agrees_start.foldl_act es
      have hasked := evaluate_askedOnce source policy c [f.key] f
      intro once anew
      have hkeys : once.contextKeys = Entries.names
          (Run.exec (source.environment.evaluate policy c [f.key] f) .start).2.memberships :=
        hasked.asked
      refine ⟨?_, ?_, ?_, hkeys ▸ hasked.nodup, hkeys ▸ hasked.own⟩
      all_goals
        subst once anew
        rw [evaluateFor_some, evaluateFor_some, honce _ source.coherent_start,
          hanew _ source.coherent_start]
      · unfold Evaluation.ofRun
        rw [hagrees.status]
      · exact hagrees.events
      · rfl

end Environment
end FeatureFlags
