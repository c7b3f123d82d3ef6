import FeatureFlags.Event
import FeatureFlags.Store

/-!
# Running an evaluation

An evaluation may fail, and on its way it asks for flags, segments and memberships, gathers events
and learns about the health of the big segment store. `Run` is a computation that does so; what was
gathered (`Progress`) stays when it fails.

A `Source` answers what is asked for. Memberships are asked for once per context key: the answer is
remembered and serves from then on (`Source.askOnce`). `Source.askAnew` asks every time. The rest of
an evaluation does not know which of the two it works with (`Environment`).

The errors that an evaluation may come to have a kind, which a reason shows, and a message.
-/

namespace FeatureFlags

inductive EvaluationError where
  | invalidContext (cause : ContextError)
  | flagNotFound
  | invalidVariationIndex (index : Int64)
  | missingVariationOrRollout
  | emptyRollout
  | invalidReference (text : String)
  | circularPrerequisite (key : String)
  | circularSegment (key : String)
deriving DecidableEq, Repr

namespace EvaluationError

def kind : EvaluationError → ErrorKind
  | invalidContext _ => .userNotSpecified
  | flagNotFound => .flagNotFound
  | _ => .malformedFlag

def message : EvaluationError → String
  | invalidContext cause => "invalid evaluation context: " ++ cause.message
  | flagNotFound => "flag not found"
  | invalidVariationIndex index =>
    "variation index " ++ String.ofList (Json.renderInt index.toInt) ++ " is out of range"
  | missingVariationOrRollout => "rule or fallthrough has neither a variation nor a rollout"
  | emptyRollout => "rollout has no variations"
  | invalidReference text => "invalid attribute reference " ++ Quoted.quote text
  | circularPrerequisite key =>
    "prerequisite relationship to " ++ Quoted.quote key ++ " caused a circular reference"
  | circularSegment key =>
    "segment rule referencing segment " ++ Quoted.quote key ++ " caused a circular reference"

end EvaluationError

inductive Query where
  | flag (key : String)
  | segment (key : String)
  | membership (contextKey : String)
deriving DecidableEq, Repr

structure Progress where
  events : List Event
  status : Option BigSegmentsStatus
  /-- the answers about memberships, by context key -/
  memberships : Entries (Option Membership)
  queries : List Query

def Progress.start : Progress := ⟨[], none, [], []⟩

/-- A computation that may fail and keeps what it has gathered. -/
abbrev Run (α : Type) : Type := ExceptT EvaluationError (StateM Progress) α

namespace Run

def ask (q : Query) : Run Unit := modify fun p => { p with queries := p.queries ++ [q] }

def report (e : Event) : Run Unit := modify fun p => { p with events := p.events ++ [e] }

def mergeStatus (s : BigSegmentsStatus) : Run Unit :=
  modify fun p => { p with status := some ((p.status.map fun t => t.merge s).getD s) }

/-- Fail or succeed without gathering anything. -/
def ofExcept {α : Type} : Except EvaluationError α → Run α
  | .ok a => pure a
  | .error e => throw e

end Run

structure Source where
  data : DataSet
  /-- the membership of a context and the health of the store; none if there is no store -/
  membership? : String → Option (Membership × BigSegmentsStatus)

namespace Source

def ofStore (s : Store) : Source := ⟨s.data, s.membership?⟩

def askAnew (source : Source) (contextKey : String) : Run (Option Membership) := do
  Run.ask (.membership contextKey)
  match source.membership? contextKey with
  | some (membership, status) =>
    Run.mergeStatus status
    return some membership
  | none =>
    Run.mergeStatus .notConfigured
    return none

/-- The membership of a context, asked for only if it has not been before. -/
def askOnce (source : Source) (contextKey : String) : Run (Option Membership) := do
  match Entries.find? contextKey (← get).memberships with
  | some answer => return answer
  | none =>
    let answer ← source.askAnew contextKey
    modify fun p => { p with memberships := Entries.insert contextKey answer p.memberships }
    return answer

end Source

/-- What evaluations work with: the data, and a way to get at memberships. -/
structure Environment where
  data : DataSet
  membership : String → Run (Option Membership)

def Source.environment (source : Source) : Environment := ⟨source.data, source.askOnce⟩

def Source.environmentAnew (source : Source) : Environment := ⟨source.data, source.askAnew⟩

end FeatureFlags
