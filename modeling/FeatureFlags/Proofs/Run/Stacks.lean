import FeatureFlags.Proofs.Run.Basic

/-! # Runs that keep stacks

A run is told the keys that it is amid. It may also keep them itself: a `StackRun` has a stack of
flags and a stack of segments in its state, pushes a key before it goes deeper and pops one
afterwards. Like everything else in its state, the stacks stay as they are when the run fails, so
nothing but the pops puts them back.

`StackRun.Mirrors` says of such a run that, wherever it starts with two given stacks, it comes to
the outcome and the progress of a run that has been told them, and leaves both stacks as they were.
There is a rule for each way of making a run. -/

namespace FeatureFlags

/-- What an evaluation has gathered, and the keys that it is amid. -/
structure Held where
  progress : Progress
  /-- the flags being evaluated, the last one first -/
  visited : List String
  /-- the segments being looked at, the last one first -/
  segmentStack : List String

/-- A computation that may fail and keeps what it has gathered and its stacks. -/
abbrev StackRun (α : Type) : Type := ExceptT EvaluationError (StateM Held) α

/-! ## Outcomes as values

To pop a key when a run has failed, its outcome has to be taken as a value first and passed on
later. -/

namespace Run

variable {α : Type}

/-- The outcome of a run as a value: what comes next is done even if the run fails. -/
def attempt (m : Run α) : Run (Except EvaluationError α) :=
  ExceptT.mk fun p =>
    let (r, q) := exec m p
    (.ok r, q)

/-- A run whose outcome is passed on is the run. -/
theorem attempt_bind_ofExcept (m : Run α) : attempt m >>= ofExcept = m := by
  refine funext fun p => ?_
  show exec (attempt m >>= ofExcept) p = exec m p
  rw [exec_bind]
  exact exec_ofExcept (exec m p).1 (exec m p).2

/-- A contained run passes on what is left of its outcome. -/
theorem attempt_bind_contained (m : Run Detail) :
    (attempt m >>= fun r => ofExcept (Environment.contained r)) = Environment.contain m := by
  refine funext fun p => ?_
  show exec (attempt m >>= _) p = exec (Environment.contain m) p
  rw [exec_bind, Environment.exec_contain]
  exact exec_ofExcept (Environment.contained (exec m p).1) (exec m p).2

end Run

/-! ## Ways of making a run

What is no business of the stacks is a run as before (`ofRun`). A key is pushed in front and popped
from the front, whatever stands there by then. -/

namespace StackRun

variable {α β : Type}

def exec (m : StackRun α) (s : Held) : Except EvaluationError α × Held := m.run.run s

def ofRun (m : Run α) : StackRun α :=
  ExceptT.mk fun s =>
    let (r, p) := Run.exec m s.progress
    (r, { s with progress := p })

/-- The outcome of a run as a value. -/
def attempt (m : StackRun α) : StackRun (Except EvaluationError α) :=
  ExceptT.mk fun s =>
    let (r, t) := exec m s
    (.ok r, t)

def ofExcept (r : Except EvaluationError α) : StackRun α := ofRun (Run.ofExcept r)

def visited : StackRun (List String) := return (← get).visited

def segmentStack : StackRun (List String) := return (← get).segmentStack

/-- Run with one more key among the flags being evaluated, and drop a key again however the run has
ended. -/
def amidFlag (key : String) (m : StackRun α) : StackRun (Except EvaluationError α) := do
  modify fun s => { s with visited := key :: s.visited }
  let r ← attempt m
  modify fun s => { s with visited := s.visited.tail }
  return r

/-- Run with one more key among the segments being looked at, and drop a key again however the run
has ended. -/
def amidSegment (key : String) (m : StackRun α) : StackRun (Except EvaluationError α) := do
  modify fun s => { s with segmentStack := key :: s.segmentStack }
  let r ← attempt m
  modify fun s => { s with segmentStack := s.segmentStack.tail }
  return r

theorem exec_bind (m : StackRun α) (k : α → StackRun β) (s : Held) :
    exec (m >>= k) s = match exec m s with
      | (.ok a, t) => exec (k a) t
      | (.error e, t) => (.error e, t) := by
  show (ExceptT.bindCont k (m.run.run s).1) (m.run.run s).2 = _
  unfold exec
  cases m.run.run s with
  | mk r t => cases r <;> rfl

/-! ## The same run without stacks

The stacks are the same at both ends of a run, so that a second one finds the stacks that the first
has found. Where a key has been pushed, the run without stacks has been told one more key. -/

/-- From everywhere with these stacks, the run comes to what the other one comes to, and leaves the
stacks as they are. -/
def Mirrors (flags segments : List String) (m : StackRun α) (m' : Run α) : Prop :=
  ∀ p, exec m ⟨p, flags, segments⟩
    = ((Run.exec m' p).1, ⟨(Run.exec m' p).2, flags, segments⟩)

namespace Mirrors

variable {flags segments : List String}

theorem ofRun (m : Run α) : Mirrors flags segments (StackRun.ofRun m) m := fun _ => rfl

theorem ofExcept (r : Except EvaluationError α) :
    Mirrors flags segments (StackRun.ofExcept r) (Run.ofExcept r) := ofRun _

theorem pure (a : α) : Mirrors flags segments (Pure.pure a) (Pure.pure a) := fun _ => rfl

theorem throw (e : EvaluationError) :
    Mirrors flags segments (MonadExcept.throw e : StackRun α) (MonadExcept.throw e) := fun _ => rfl

theorem bind {m : StackRun α} {m' : Run α} {k : α → StackRun β} {k' : α → Run β}
    (hm : Mirrors flags segments m m') (hk : ∀ a, Mirrors flags segments (k a) (k' a)) :
    Mirrors flags segments (m >>= k) (m' >>= k') := by
  intro p
  rw [exec_bind, hm p, Run.exec_bind]
  rcases Run.exec m' p with ⟨r, q⟩
  cases r with
  | ok a => exact hk a q
  | error e => rfl  -- The rest is not run, and the stacks are those that `m` has left.

/-- The run may look at the flags being evaluated. -/
theorem visited_bind {k : List String → StackRun β} {m' : Run β}
    (h : Mirrors flags segments (k flags) m') :
    Mirrors flags segments (StackRun.visited >>= k) m' := by
  intro p
  rw [exec_bind]
  exact h p

/-- The run may look at the segments being looked at. -/
theorem segmentStack_bind {k : List String → StackRun β} {m' : Run β}
    (h : Mirrors flags segments (k segments) m') :
    Mirrors flags segments (StackRun.segmentStack >>= k) m' := by
  intro p
  rw [exec_bind]
  exact h p

/-- Amid one more flag a run mirrors another, if it does with the key on its stack. -/
theorem amidFlag {key : String} {m : StackRun α} {m' : Run α}
    (hm : Mirrors (key :: flags) segments m m') :
    Mirrors flags segments (StackRun.amidFlag key m) (Run.attempt m') := by
  intro p
  show (let (r, t) := exec m ⟨p, key :: flags, segments⟩
    (Except.ok r, { t with visited := t.visited.tail })) = _
  rw [hm p]
  rfl

/-- Amid one more segment a run mirrors another, if it does with the key on its stack. -/
theorem amidSegment {key : String} {m : StackRun α} {m' : Run α}
    (hm : Mirrors flags (key :: segments) m m') :
    Mirrors flags segments (StackRun.amidSegment key m) (Run.attempt m') := by
  intro p
  show (let (r, t) := exec m ⟨p, flags, key :: segments⟩
    (Except.ok r, { t with segmentStack := t.segmentStack.tail })) = _
  rw [hm p]
  rfl

theorem anyM {f : β → StackRun Bool} {g : β → Run Bool} {xs : List β}
    (h : ∀ x ∈ xs, Mirrors flags segments (f x) (g x)) :
    Mirrors flags segments (xs.anyM f) (xs.anyM g) := by
  induction xs with
  | nil => exact pure false
  | cons x xs ih =>
      rw [List.anyM_cons, List.anyM_cons]
      refine bind (h x List.mem_cons_self) fun b => ?_
      cases b with
      | true => exact pure true
      | false => exact ih fun y hy => h y (List.mem_cons_of_mem x hy)

theorem allM {f : β → StackRun Bool} {g : β → Run Bool} {xs : List β}
    (h : ∀ x ∈ xs, Mirrors flags segments (f x) (g x)) :
    Mirrors flags segments (xs.allM f) (xs.allM g) := by
  induction xs with
  | nil => exact pure true
  | cons x xs ih =>
      rw [List.allM_cons, List.allM_cons]
      refine bind (h x List.mem_cons_self) fun b => ?_
      cases b with
      | true => exact ih fun y hy => h y (List.mem_cons_of_mem x hy)
      | false => exact pure false

end Mirrors
end StackRun
end FeatureFlags
