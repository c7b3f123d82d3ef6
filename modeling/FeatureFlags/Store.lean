import FeatureFlags.DataSet
import FeatureFlags.Reason

/-!
# The store

A store holds the data set in force and the memberships of contexts in big segments.

* Whatever replaces a data set, a flag or a segment answers with the one before.
* Memberships are answered once a health or a membership has been set; before that there is no store
  of memberships.
* The data and the memberships are set independently of each other.
-/

namespace FeatureFlags

/-- Whether a context belongs to big segments, by the names of their generations. -/
abbrev Membership : Type := Entries Bool

structure Store where
  data : DataSet
  /-- the health of the memberships; none as long as there are none -/
  status : Option BigSegmentsStatus
  memberships : Entries Membership
deriving Inhabited

namespace Store

def ofData (data : DataSet) : Store := ⟨data, none, []⟩

def flag? (s : Store) (key : String) : Option Flag := Entries.find? key s.data.flags

def segment? (s : Store) (key : String) : Option Segment := Entries.find? key s.data.segments

/-- The membership of a context and the health of memberships. A context without a membership
belongs to nothing. -/
def membership? (s : Store) (contextKey : String) : Option (Membership × BigSegmentsStatus) :=
  s.status.map fun status => ((Entries.find? contextKey s.memberships).getD [], status)

def setData (s : Store) (data : DataSet) : DataSet × Store := (s.data, { s with data })

def upsertFlag (s : Store) (f : Flag) : Option Flag × Store :=
  (s.flag? f.key, { s with data := s.data.insertFlag f })

def upsertSegment (s : Store) (g : Segment) : Option Segment × Store :=
  (s.segment? g.key, { s with data := s.data.insertSegment g })

def setStatus (s : Store) (status : BigSegmentsStatus) : Store := { s with status := some status }

/-- Set the membership of a context. The first one makes memberships healthy. -/
def setMembership (s : Store) (contextKey : String) (m : Membership) : Store :=
  { s with
    status := some (s.status.getD .healthy)
    memberships := Entries.insert contextKey m s.memberships }

end Store
end FeatureFlags
