import Mathlib.Data.List.DropRight
import FeatureFlags.Store

/-! # A store and its history

A store keeps no history, but what it answers is what its history says (`performAll_history`).

* **Data** — a flag is the one that was put in last under its key since the data set was replaced,
  else the one in that data set. The same holds of segments.
* **Memberships** — a membership is the one that was set last for its context, and all of them are
  reported with the health that was set last.
* **Answers** — an operation on data is answered with what it has replaced, and no answer depends on
  what comes after it.

The two halves of a store have nothing to do with each other: each comes out the same without the
operations on the other one (`data_after_filter`, `memberships_after_filter`). -/

namespace FeatureFlags
namespace Store

/-! ## Operations and answers

The five operations of a store, each with the answer it gives, and runs of them. -/

inductive Operation where
  | setData (data : DataSet)
  | upsertFlag (f : Flag)
  | upsertSegment (s : Segment)
  | setStatus (status : BigSegmentsStatus)
  | setMembership (contextKey : String) (m : Membership)

/-- What the store answers to an operation: what was there before. -/
inductive Answer where
  | nothing
  | data (data : DataSet)
  | flag (f : Option Flag)
  | segment (s : Option Segment)

def perform (s : Store) : Operation → Answer × Store
  | .setData data => ((s.setData data).map Answer.data id)
  | .upsertFlag f => ((s.upsertFlag f).map Answer.flag id)
  | .upsertSegment g => ((s.upsertSegment g).map Answer.segment id)
  | .setStatus status => (.nothing, s.setStatus status)
  | .setMembership contextKey m => (.nothing, s.setMembership contextKey m)

/-- The answers to some operations, one after another, and the store after them. -/
def performAll (s : Store) : List Operation → List Answer × Store
  | [] => ([], s)
  | op :: ops =>
    let (answer, s) := s.perform op
    (s.performAll ops).map (answer :: ·) id

/-- The store after some operations, one after another. -/
def after (s : Store) (ops : List Operation) : Store := (s.performAll ops).2

/-! ## What a history says

A history is a list of operations, the last one at its end. Each function on single operations tells
what an operation puts in one place, and the last one that puts anything there counts (`last?`).
`Remembers` puts together what a store holds after a history. -/

namespace Operation

def isOnMemberships : Operation → Bool
  | setStatus _ | setMembership _ _ => true
  | _ => false

def data? : Operation → Option DataSet
  | setData data => some data
  | _ => none

def flag? (key : String) : Operation → Option Flag
  | upsertFlag f => if f.key = key then some f else none
  | _ => none

def segment? (key : String) : Operation → Option Segment
  | upsertSegment s => if s.key = key then some s else none
  | _ => none

def status? : Operation → Option BigSegmentsStatus
  | setStatus status => some status
  | _ => none

def membership? (contextKey : String) : Operation → Option Membership
  | setMembership key m => if key = contextKey then some m else none
  | _ => none

end Operation

variable {α : Type} {s : Store} {d : DataSet} {ops : List Operation} {op : Operation}

/-- What the last of the operations puts, among those that put something of this sort. -/
def last? (put : Operation → Option α) (ops : List Operation) : Option α :=
  (ops.filterMap put).getLast?

/-- The operations since the data set was last replaced. -/
def sinceData (ops : List Operation) : List Operation := ops.rtakeWhile fun op => op.data?.isNone

/-- The data set that was last put in force; it is `d` until one is. -/
def lastData (d : DataSet) (ops : List Operation) : DataSet := (last? Operation.data? ops).getD d

/-- The health that memberships are reported with: none without an operation on memberships, and
healthy until one sets it. -/
def lastStatus? (ops : List Operation) : Option BigSegmentsStatus :=
  if ops.any Operation.isOnMemberships then some ((last? Operation.status? ops).getD .healthy)
  else none

structure Remembers (s : Store) (d : DataSet) (ops : List Operation) : Prop where
  flag? : ∀ key, s.flag? key
    = (last? (Operation.flag? key) (sinceData ops)).or (Entries.find? key (lastData d ops).flags)
  segment? : ∀ key, s.segment? key
    = (last? (Operation.segment? key) (sinceData ops)).or
        (Entries.find? key (lastData d ops).segments)
  status : s.status = lastStatus? ops
  membership : ∀ contextKey,
    Entries.find? contextKey s.memberships = last? (Operation.membership? contextKey) ops

/-! ## What one operation does

An operation that replaces the data set decides about all flags and segments. Any other one decides
about a single key, or about none. -/

theorem data_perform_of_data? {data : DataSet} (h : op.data? = some data) :
    (s.perform op).2.data = data := by
  cases op with
  | setData data' => exact Option.some.inj h
  | upsertFlag | upsertSegment | setStatus | setMembership => cases h

theorem flag?_perform (h : op.data? = none) (key : String) :
    (s.perform op).2.flag? key = (op.flag? key).or (s.flag? key) := by
  cases op with
  | setData => cases h
  | upsertFlag f => exact Entries.find?_insert f.key key f s.data.flags
  | upsertSegment | setStatus | setMembership => rfl

theorem segment?_perform (h : op.data? = none) (key : String) :
    (s.perform op).2.segment? key = (op.segment? key).or (s.segment? key) := by
  cases op with
  | setData => cases h
  | upsertSegment g => exact Entries.find?_insert g.key key g s.data.segments
  | upsertFlag | setStatus | setMembership => rfl

theorem status_perform : (s.perform op).2.status
    = if op.isOnMemberships then some (op.status?.getD (s.status.getD .healthy))
      else s.status := by
  cases op <;> rfl

theorem find?_memberships_perform (contextKey : String) :
    Entries.find? contextKey (s.perform op).2.memberships
      = (op.membership? contextKey).or (Entries.find? contextKey s.memberships) := by
  cases op with
  | setMembership key m => exact Entries.find?_insert key contextKey m s.memberships
  | setData | upsertFlag | upsertSegment | setStatus => rfl

/-! ## One more operation in the history

Histories grow at their end, which is where the last operation is looked for. -/

theorem last?_append_singleton (put : Operation → Option α) :
    last? put (ops ++ [op]) = (put op).or (last? put ops) := by
  unfold last?
  rw [List.filterMap_append, List.getLast?_append, List.filterMap_cons]
  cases put op <;> rfl

theorem last?_eq_none {put : Operation → Option α} (h : ∀ op ∈ ops, put op = none) :
    last? put ops = none := by
  rw [last?, List.filterMap_eq_nil_iff.mpr h, List.getLast?_nil]

theorem sinceData_append_of_none (h : op.data? = none) :
    sinceData (ops ++ [op]) = sinceData ops ++ [op] := by
  unfold sinceData
  rw [List.rtakeWhile_concat, h, Option.isNone_none, if_pos rfl]

theorem sinceData_append_of_some {data : DataSet} (h : op.data? = some data) :
    sinceData (ops ++ [op]) = [] := by
  unfold sinceData
  rw [List.rtakeWhile_concat, h, Option.isNone_some, if_neg Bool.false_ne_true]

theorem lastData_append_singleton :
    lastData d (ops ++ [op]) = op.data?.getD (lastData d ops) := by
  unfold lastData
  rw [last?_append_singleton]
  cases op.data? <;> rfl

theorem status?_eq_none (h : op.isOnMemberships = false) : op.status? = none := by
  cases op with
  | setStatus | setMembership => cases h
  | setData | upsertFlag | upsertSegment => rfl

/-- Memberships that are there without a health having been set are healthy. -/
theorem getD_lastStatus? :
    (lastStatus? ops).getD .healthy = (last? Operation.status? ops).getD .healthy := by
  unfold lastStatus?
  cases hany : ops.any Operation.isOnMemberships with
  | true => rfl
  | false =>
      have hnone : last? Operation.status? ops = none :=
        last?_eq_none fun op hop =>
          status?_eq_none (Bool.not_eq_true _ ▸ List.any_eq_false.mp hany op hop)
      rw [hnone]
      rfl

theorem lastStatus?_append_singleton : lastStatus? (ops ++ [op])
    = if op.isOnMemberships then some (op.status?.getD ((lastStatus? ops).getD .healthy))
      else lastStatus? ops := by
  rw [getD_lastStatus?, lastStatus?, last?_append_singleton, List.any_append, List.any_cons,
    List.any_nil, Bool.or_false]
  cases hon : op.isOnMemberships with
  | true =>
      rw [Bool.or_true, if_pos rfl, if_pos rfl]
      cases op.status? <;> rfl
  | false =>
      rw [Bool.or_false, status?_eq_none hon]
      rfl

/-- A store that remembers a history remembers one more operation. -/
theorem Remembers.perform (h : s.Remembers d ops) (op : Operation) :
    (s.perform op).2.Remembers d (ops ++ [op]) where
  flag? key := by
    rw [lastData_append_singleton]
    cases hdata : op.data? with
    | none =>
        rw [flag?_perform hdata, h.flag?, sinceData_append_of_none hdata, last?_append_singleton,
          Option.or_assoc]
        rfl
    | some data =>
        rw [Store.flag?, data_perform_of_data? hdata, sinceData_append_of_some hdata]
        rfl
  segment? key := by
    rw [lastData_append_singleton]
    cases hdata : op.data? with
    | none =>
        rw [segment?_perform hdata, h.segment?, sinceData_append_of_none hdata,
          last?_append_singleton, Option.or_assoc]
        rfl
    | some data =>
        rw [Store.segment?, data_perform_of_data? hdata, sinceData_append_of_some hdata]
        rfl
  status := by rw [status_perform, h.status, lastStatus?_append_singleton]
  membership contextKey := by
    rw [find?_memberships_perform, h.membership, last?_append_singleton]

/-! ## A whole history

By induction from the end of the history: a store that remembers it remembers one more operation. -/

theorem performAll_append (ops' : List Operation) : s.performAll (ops ++ ops')
    = ((s.after ops).performAll ops').map ((s.performAll ops).1 ++ ·) id := by
  induction ops generalizing s with
  | nil => rfl
  | cons op ops ih =>
      show (((s.perform op).2.performAll (ops ++ ops')).map _ _) = _
      rw [ih]
      rfl

theorem after_append_singleton : s.after (ops ++ [op]) = ((s.after ops).perform op).2 := by
  unfold after
  rw [performAll_append]
  rfl

/-- A store remembers whatever has been done to it. -/
theorem remembers_after (d : DataSet) (ops : List Operation) :
    ((ofData d).after ops).Remembers d ops := by
  induction ops using List.reverseRecOn with
  | nil =>
      exact ⟨fun _ => rfl, fun _ => rfl, rfl, fun _ => rfl⟩
  | append_singleton ops op ih =>
      rw [after_append_singleton]
      exact ih.perform op

theorem length_answers : (s.performAll ops).1.length = ops.length := by
  induction ops generalizing s with
  | nil => rfl
  | cons op ops ih => exact congrArg Nat.succ ih

/-- The answer to an operation does not depend on what comes after it. -/
theorem getElem?_answers (rest : List Operation) :
    (s.performAll (ops ++ op :: rest)).1[ops.length]? = some ((s.after ops).perform op).1 := by
  rw [performAll_append]
  show ((s.performAll ops).1 ++ _ :: _)[ops.length]? = _
  rw [List.getElem?_append_right (Nat.le_of_eq length_answers), length_answers, Nat.sub_self]
  rfl

/-! ## Data and memberships

An operation leaves one half alone, and what it makes of the other depends on that half only. -/

/-- A part of a store that only some operations change, and change by itself, comes out the same
without the others. -/
theorem after_filter (part : Store → α) {changes : Operation → Bool}
    (hchange : ∀ (s t : Store) op, changes op = true → part s = part t →
      part (s.perform op).2 = part (t.perform op).2)
    (hkeep : ∀ (s : Store) op, changes op = false → part (s.perform op).2 = part s)
    {t : Store} (h : part s = part t) :
    part (s.after ops) = part (t.after (ops.filter changes)) := by
  induction ops generalizing s t with
  | nil => exact h
  | cons op ops ih =>
      cases hop : changes op with
      | true =>
          rw [List.filter_cons_of_pos hop]
          exact ih (hchange s t op hop h)
      | false =>
          rw [List.filter_cons_of_neg (Bool.not_eq_true _ ▸ hop)]
          exact ih ((hkeep s op hop).trans h)

theorem data_after_filter {t : Store} (h : s.data = t.data) :
    (s.after ops).data = (t.after (ops.filter fun op => !op.isOnMemberships)).data := by
  refine after_filter Store.data ?_ ?_ h
  · intro s t op _ h
    cases op with
    | setData => rfl
    | upsertFlag f => exact congrArg (DataSet.insertFlag · f) h
    | upsertSegment g => exact congrArg (DataSet.insertSegment · g) h
    | setStatus | setMembership => exact h
  · intro s op hop
    cases op with
    | setStatus | setMembership => rfl
    | setData | upsertFlag | upsertSegment => cases hop

theorem memberships_after_filter {t : Store}
    (h : (s.status, s.memberships) = (t.status, t.memberships)) :
    ((s.after ops).status, (s.after ops).memberships)
      = ((t.after (ops.filter Operation.isOnMemberships)).status,
          (t.after (ops.filter Operation.isOnMemberships)).memberships) := by
  refine after_filter (fun s => (s.status, s.memberships)) ?_ ?_ h
  · intro s t op hop h
    obtain ⟨hstatus, hmemberships⟩ := Prod.mk.inj h
    cases op with
    | setStatus => exact congrArg _ hmemberships
    | setMembership contextKey m =>
        show (some (s.status.getD .healthy), Entries.insert contextKey m s.memberships) = _
        rw [hstatus, hmemberships]
        rfl
    | setData | upsertFlag | upsertSegment => cases hop
  · intro s op hop
    cases op with
    | setStatus | setMembership => cases hop
    | setData | upsertFlag | upsertSegment => rfl

/-! ## Answers by history

All that a store is asked for is what it remembers. -/

/-- **A store equals its history.** Take a store with any data set and any operations on it. The
flag and the segment under a key are those that were put there last since the data set was replaced,
else those of the data set in force. Memberships are answered once an operation on them has
occurred: with the membership last set for the context, and the health last set. An operation that
replaces something answers what was there just before it. And neither half of the store is changed
by the operations on the other. -/
theorem performAll_history (d : DataSet) (ops : List Operation) :
    let s := (ofData d).after ops
    (∀ key, s.flag? key = (last? (Operation.flag? key) (sinceData ops)).or
      (Entries.find? key (lastData d ops).flags)) ∧
    (∀ key, s.segment? key = (last? (Operation.segment? key) (sinceData ops)).or
      (Entries.find? key (lastData d ops).segments)) ∧
    (∀ contextKey, s.membership? contextKey =
      if ops.any Operation.isOnMemberships then
        some ((last? (Operation.membership? contextKey) ops).getD [],
          (last? Operation.status? ops).getD .healthy)
      else none) ∧
    (∀ rest,
      (∀ f, ((ofData d).performAll (ops ++ .upsertFlag f :: rest)).1[ops.length]?
        = some (.flag (s.flag? f.key))) ∧
      (∀ g, ((ofData d).performAll (ops ++ .upsertSegment g :: rest)).1[ops.length]?
        = some (.segment (s.segment? g.key))) ∧
      ∀ data, ((ofData d).performAll (ops ++ .setData data :: rest)).1[ops.length]?
        = some (.data s.data)) ∧
    s.data = ((ofData d).after (ops.filter fun op => !op.isOnMemberships)).data ∧
    ∀ d' contextKey, s.membership? contextKey
      = ((ofData d').after (ops.filter Operation.isOnMemberships)).membership? contextKey := by
  intro s
  have hs : s.Remembers d ops := remembers_after d ops
  refine ⟨hs.flag?, hs.segment?, fun contextKey => ?_, fun rest => ?_, data_after_filter rfl, ?_⟩
  · rw [Store.membership?, hs.status, hs.membership, lastStatus?]
    split <;> rfl
  · exact ⟨fun f => getElem?_answers rest, fun g => getElem?_answers rest,
      fun data => getElem?_answers rest⟩
  · intro d' contextKey
    have h : (s.status, s.memberships) = _ := memberships_after_filter (t := ofData d') rfl
    exact congrArg (fun half : Option BigSegmentsStatus × Entries Membership =>
      half.1.map fun status => ((Entries.find? contextKey half.2).getD [], status)) h

end Store
end FeatureFlags
