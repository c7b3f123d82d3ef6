import FeatureFlags.Proofs.Run.Basic

/-! # Runs as outcome and effects

A run reads its progress in one place only: to see whether a membership has been asked for before.
As long as the remembered answers are those of the source (`Source.Coherent`) this cannot be told
from outside, so the run has a fixed outcome and a fixed list of *effects*, whatever it starts from.

* **One run** (`Run.Follows`) — from every coherent progress it comes to the outcome by the effects.
* **Two runs** (`Run.Alike`) — working with different ways of getting at memberships, they come to
  the same outcome by the same effects.

`Alike` is a congruence for everything runs are made of, so that two evaluators which differ in how
they get at memberships are compared part by part. -/

namespace FeatureFlags

inductive Effect where
  /-- a flag or a segment is asked for -/
  | ask (q : Query)
  | report (e : Event)
  /-- the health of the store is learnt without asking for a membership -/
  | learn (s : BigSegmentsStatus)
  /-- the membership of a context is needed, asked for before or not -/
  | consult (contextKey : String)

/-- What an effect makes of the progress. -/
def Environment.act (env : Environment) (p : Progress) : Effect → Progress
  | .ask q => (Run.exec (Run.ask q) p).2
  | .report e => (Run.exec (Run.report e) p).2
  | .learn s => (Run.exec (Run.mergeStatus s) p).2
  | .consult contextKey => (Run.exec (env.membership contextKey) p).2

/-! ## Coherent progress

The two environments of a source differ in what is asked of it: one asks for the membership of a
context once and remembers the answer, the other asks anew each time. Both have the answers of the
source. -/

def Progress.remember (p : Progress) (contextKey : String) (a : Option Membership) : Progress :=
  { p with memberships := Entries.insert contextKey a p.memberships }

namespace Source

/-- The membership of a context, without the health of the store. -/
def answer (source : Source) (contextKey : String) : Option Membership :=
  (source.membership? contextKey).map Prod.fst

def Coherent (source : Source) (p : Progress) : Prop :=
  ∀ contextKey a, Entries.find? contextKey p.memberships = some a → a = source.answer contextKey

theorem coherent_start (source : Source) : source.Coherent .start := by
  intro contextKey a h
  cases h

/-- Only the remembered answers count. -/
theorem Coherent.of_memberships_eq {source : Source} {p q : Progress} (h : source.Coherent p)
    (hq : q.memberships = p.memberships) : source.Coherent q := by
  intro contextKey a ha
  rw [hq] at ha
  exact h contextKey a ha

theorem Coherent.remember {source : Source} {p : Progress} (h : source.Coherent p)
    (contextKey : String) :
    source.Coherent (p.remember contextKey (source.answer contextKey)) := by
  intro other a ha
  unfold Progress.remember at ha
  by_cases ho : other = contextKey
  · subst ho
    rw [Entries.find?_insert_self] at ha
    exact (Option.some.inj ha).symm
  · rw [Entries.find?_insert_of_ne ho] at ha
    exact h other a ha

end Source

/-- An environment with the data of the source, whose memberships are those of the source as long as
the progress is coherent. -/
structure Environment.Reads (env : Environment) (source : Source) : Prop where
  data : env.data = source.data
  answers : ∀ contextKey p, source.Coherent p →
    (Run.exec (env.membership contextKey) p).1 = .ok (source.answer contextKey)
  coherent : ∀ contextKey p, source.Coherent p →
    source.Coherent (Run.exec (env.membership contextKey) p).2

namespace Source

open Run

/-- Asking anew always succeeds, and remembers nothing. -/
theorem exec_askAnew (source : Source) (contextKey : String) (p : Progress) :
    ∃ q, exec (source.askAnew contextKey) p = (.ok (source.answer contextKey), q) ∧
      q.memberships = p.memberships := by
  unfold askAnew answer
  rw [exec_bind, exec_ask]
  cases source.membership? contextKey with
  | some found =>
      refine ⟨_, rfl, ?_⟩
      rfl
  | none =>
      refine ⟨_, rfl, ?_⟩
      rfl

/-- Asking once answers from memory where it can, and else asks anew and remembers. -/
theorem exec_askOnce (source : Source) (contextKey : String) (p : Progress) :
    exec (source.askOnce contextKey) p
      = match Entries.find? contextKey p.memberships with
        | some a => (.ok a, p)
        | none =>
          (.ok (source.answer contextKey),
            (exec (source.askAnew contextKey) p).2.remember contextKey
              (source.answer contextKey)) := by
  unfold askOnce
  rw [exec_bind]
  show exec (match Entries.find? contextKey p.memberships with
    | some answer => pure answer
    | none => _) p = _
  cases Entries.find? contextKey p.memberships with
  | some a => rfl
  | none =>
      obtain ⟨q, hq, -⟩ := source.exec_askAnew contextKey p
      show exec (source.askAnew contextKey >>= _) p = _
      rw [exec_bind_ok hq, hq]
      rfl

theorem environment_reads (source : Source) : source.environment.Reads source where
  data := rfl
  answers contextKey p hp := by
    show (exec (source.askOnce contextKey) p).1 = _
    rw [exec_askOnce]
    cases h : Entries.find? contextKey p.memberships with
    | some a => exact congrArg Except.ok (hp contextKey a h)
    | none => rfl
  coherent contextKey p hp := by
    show source.Coherent (exec (source.askOnce contextKey) p).2
    rw [exec_askOnce]
    cases h : Entries.find? contextKey p.memberships with
    | some a => exact hp
    | none =>
        obtain ⟨q, hq, hm⟩ := source.exec_askAnew contextKey p
        simp only [hq]
        exact (hp.of_memberships_eq hm).remember contextKey

theorem environmentAnew_reads (source : Source) : source.environmentAnew.Reads source where
  data := rfl
  answers contextKey p _ := by
    obtain ⟨q, hq, -⟩ := source.exec_askAnew contextKey p
    exact congrArg Prod.fst hq
  coherent contextKey p hp := by
    obtain ⟨q, hq, hm⟩ := source.exec_askAnew contextKey p
    show source.Coherent (exec (source.askAnew contextKey) p).2
    rw [hq]
    exact hp.of_memberships_eq hm

end Source

/-- No effect loses coherence. -/
theorem Environment.Reads.act {env : Environment} {source : Source} (h : env.Reads source)
    {p : Progress} (hp : source.Coherent p) (e : Effect) : source.Coherent (env.act p e) := by
  cases e with
  | ask q => exact hp.of_memberships_eq rfl
  | report e => exact hp.of_memberships_eq rfl
  | learn s => exact hp.of_memberships_eq rfl
  | consult contextKey => exact h.coherent contextKey p hp

theorem Environment.Reads.foldl_act {env : Environment} {source : Source} (h : env.Reads source)
    (es : List Effect) {p : Progress} (hp : source.Coherent p) :
    source.Coherent (es.foldl env.act p) := by
  induction es generalizing p with
  | nil => exact hp
  | cons e es ih => exact ih (h.act hp e)

/-! ## Following effects

The effects of two runs, one after the other, are put together; if the first one fails, its effects
are all there are. -/

namespace Run

variable {α β : Type} {source : Source} {env env₁ env₂ : Environment}

def Follows (source : Source) (env : Environment) (m : Run α) (r : Except EvaluationError α)
    (es : List Effect) : Prop :=
  ∀ p, source.Coherent p → exec m p = (r, es.foldl env.act p)

/-- Two runs, one in each environment, come to the same outcome by the same effects. -/
def Alike (source : Source) (env₁ env₂ : Environment) (m₁ m₂ : Run α) : Prop :=
  ∃ r es, Follows source env₁ m₁ r es ∧ Follows source env₂ m₂ r es

theorem Follows.bind {m : Run α} {k : α → Run β} {a : α} {r : Except EvaluationError β}
    {es es' : List Effect} (h : env.Reads source) (hm : Follows source env m (.ok a) es)
    (hk : Follows source env (k a) r es') : Follows source env (m >>= k) r (es ++ es') := by
  intro p hp
  rw [exec_bind_ok (hm p hp), hk _ (h.foldl_act es hp), List.foldl_append]

theorem Follows.bind_error {m : Run α} {k : α → Run β} {e : EvaluationError} {es : List Effect}
    (hm : Follows source env m (.error e) es) : Follows source env (m >>= k) (.error e) es := by
  intro p hp
  rw [exec_bind_error (hm p hp)]

namespace Alike

theorem ofExcept (r : Except EvaluationError α) :
    Alike source env₁ env₂ (Run.ofExcept r) (Run.ofExcept r) :=
  ⟨r, [], fun p _ => exec_ofExcept r p, fun p _ => exec_ofExcept r p⟩

theorem pure (a : α) : Alike source env₁ env₂ (Pure.pure a) (Pure.pure a) := ofExcept (.ok a)

theorem throw (e : EvaluationError) :
    Alike source env₁ env₂ (MonadExcept.throw e : Run α) (MonadExcept.throw e) :=
  ofExcept (.error e)

theorem bind {m₁ m₂ : Run α} {k₁ k₂ : α → Run β} (h₁ : env₁.Reads source)
    (h₂ : env₂.Reads source) (hm : Alike source env₁ env₂ m₁ m₂)
    (hk : ∀ a, Alike source env₁ env₂ (k₁ a) (k₂ a)) :
    Alike source env₁ env₂ (m₁ >>= k₁) (m₂ >>= k₂) := by
  obtain ⟨r, es, hm₁, hm₂⟩ := hm
  cases r with
  | error e => exact ⟨.error e, es, hm₁.bind_error, hm₂.bind_error⟩
  | ok a =>
      obtain ⟨r', es', hk₁, hk₂⟩ := hk a
      exact ⟨r', es ++ es', hm₁.bind h₁ hk₁, hm₂.bind h₂ hk₂⟩

theorem ask (q : Query) : Alike source env₁ env₂ (Run.ask q) (Run.ask q) :=
  ⟨.ok (), [.ask q], fun _ _ => rfl, fun _ _ => rfl⟩

theorem report (e : Event) : Alike source env₁ env₂ (Run.report e) (Run.report e) :=
  ⟨.ok (), [.report e], fun _ _ => rfl, fun _ _ => rfl⟩

theorem mergeStatus (s : BigSegmentsStatus) :
    Alike source env₁ env₂ (Run.mergeStatus s) (Run.mergeStatus s) :=
  ⟨.ok (), [.learn s], fun _ _ => rfl, fun _ _ => rfl⟩

theorem membership (h₁ : env₁.Reads source) (h₂ : env₂.Reads source) (contextKey : String) :
    Alike source env₁ env₂ (env₁.membership contextKey) (env₂.membership contextKey) :=
  ⟨.ok (source.answer contextKey), [.consult contextKey],
    fun p hp => Prod.ext (h₁.answers contextKey p hp) rfl,
    fun p hp => Prod.ext (h₂.answers contextKey p hp) rfl⟩

theorem contain {m₁ m₂ : Run Detail} (hm : Alike source env₁ env₂ m₁ m₂) :
    Alike source env₁ env₂ (Environment.contain m₁) (Environment.contain m₂) := by
  obtain ⟨r, es, hm₁, hm₂⟩ := hm
  refine ⟨Environment.contained r, es, fun p hp => ?_, fun p hp => ?_⟩
  · rw [Environment.exec_contain, hm₁ p hp]
  · rw [Environment.exec_contain, hm₂ p hp]

theorem anyM {f g : β → Run Bool} {xs : List β} (h₁ : env₁.Reads source) (h₂ : env₂.Reads source)
    (h : ∀ x ∈ xs, Alike source env₁ env₂ (f x) (g x)) :
    Alike source env₁ env₂ (xs.anyM f) (xs.anyM g) := by
  induction xs with
  | nil => exact pure false
  | cons x xs ih =>
      rw [List.anyM_cons, List.anyM_cons]
      refine bind h₁ h₂ (h x List.mem_cons_self) fun b => ?_
      cases b with
      | true => exact pure true
      | false => exact ih fun y hy => h y (List.mem_cons_of_mem x hy)

theorem allM {f g : β → Run Bool} {xs : List β} (h₁ : env₁.Reads source) (h₂ : env₂.Reads source)
    (h : ∀ x ∈ xs, Alike source env₁ env₂ (f x) (g x)) :
    Alike source env₁ env₂ (xs.allM f) (xs.allM g) := by
  induction xs with
  | nil => exact pure true
  | cons x xs ih =>
      rw [List.allM_cons, List.allM_cons]
      refine bind h₁ h₂ (h x List.mem_cons_self) fun b => ?_
      cases b with
      | true => exact ih fun y hy => h y (List.mem_cons_of_mem x hy)
      | false => exact pure false

/-- What a run comes to does not depend on where it starts. -/
theorem outcome_eq {m₁ m₂ : Run α} (h : Alike source env₁ env₂ m₁ m₂) {p q : Progress}
    (hp : source.Coherent p) (hq : source.Coherent q) : (exec m₁ p).1 = (exec m₂ q).1 := by
  obtain ⟨r, es, hm₁, hm₂⟩ := h
  rw [hm₁ p hp, hm₂ q hq]

/-- A run keeps its progress coherent. -/
theorem coherent {m₁ m₂ : Run α} (h : Alike source env₁ env₂ m₁ m₂) (h₁ : env₁.Reads source)
    {p : Progress} (hp : source.Coherent p) : source.Coherent (exec m₁ p).2 := by
  obtain ⟨r, es, hm₁, -⟩ := h
  rw [hm₁ p hp]
  exact h₁.foldl_act es hp

end Alike
end Run
end FeatureFlags
