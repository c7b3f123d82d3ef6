import FeatureFlags.Binary64
import FeatureFlags.Entries

/-!
# JSON values

Objects keep their members in order, and a number remembers whether it was written as an integer.
A value that a text can denote names no member of an object twice (`Json.Distinct`), and its numbers
are integers of 64 bits, signed or not, or finite binary64 numbers.

What a value is not, it has none of: `text?`, `items?`, `members?` and `member?` look into values of
one form and find nothing in the others. `members_induction` is induction along the members of
objects, for what is defined by going down through objects alone.
-/

namespace FeatureFlags

inductive Number where
  /-- an integer, from -2^63 up to 2^64 - 1 -/
  | int (n : Int)
  /-- any other number: a finite binary64 number -/
  | float (x : Float)
deriving Repr, Inhabited

namespace Number

/-- The exact value of the nearest binary64 number. -/
def toRat : Number → Rat
  | int n => Binary64.roundInt n
  | float x => ((Binary64.ofFloat x).map Binary64.Finite.toRat).getD 0

def toFloat : Number → Float
  | int n => Float.ofInt n
  | float x => x

/-- The number as a signed 64-bit integer, if it has no fraction. An integer beyond that range
counts by the nearest binary64 number. -/
def whole? : Number → Option Int
  | int n =>
    if Binary64.least ≤ n ∧ n ≤ Binary64.greatest then some n
    else Binary64.clamp? (Binary64.roundInt n)
  | float x => do Binary64.clamp? (← (← Binary64.ofFloat x).toInt?)

end Number

inductive Json where
  | null
  | bool (b : Bool)
  | number (n : Number)
  | string (s : String)
  | array (items : List Json)
  | object (members : List (String × Json))
deriving Inhabited

namespace Json

def text? : Json → Option String
  | string s => some s
  | _ => none

def items? : Json → Option (List Json)
  | array items => some items
  | _ => none

def members? : Json → Option (Entries Json)
  | object members => some members
  | _ => none

/-- The member called `name`; a value that is no object has none. -/
def member? (name : String) : Json → Option Json
  | object members => Entries.find? name members
  | _ => none

def ofInt (n : Int) : Json := number (.int n)

/-- A binary64 number; what is not finite has no JSON number and becomes `null`. -/
def ofFloat (x : Float) : Json := if x.isFinite then number (.float x) else null

def ofTexts (ss : List String) : Json := array (ss.map string)

mutual
/-- Induction along the members of objects: what holds of an object if it holds of its members, and
of whatever is no object, holds of every value. -/
theorem members_induction {motive : Json → Prop} (other : ∀ v, v.members? = none → motive v)
    (object : ∀ members, (∀ m ∈ members, motive m.2) → motive (.object members)) :
    (v : Json) → motive v
  | .object members => object members (forall_members other object members)
  | null | bool _ | number _ | string _ | array _ => other _ rfl

/-- What `members_induction` needs of the members of an object. -/
theorem forall_members {motive : Json → Prop} (other : ∀ v, v.members? = none → motive v)
    (object : ∀ members, (∀ m ∈ members, motive m.2) → motive (.object members)) :
    (members : List (String × Json)) → ∀ m ∈ members, motive m.2
  | [] => nofun
  | (_, v) :: rest =>
    List.forall_mem_cons.mpr
      ⟨members_induction other object v, forall_members other object rest⟩
end

/-- No object of the value, at any depth, names a member twice. -/
inductive Distinct : Json → Prop
  | null : Distinct null
  | bool (b : Bool) : Distinct (bool b)
  | number (n : Number) : Distinct (number n)
  | string (s : String) : Distinct (string s)
  | array {items : List Json} : (∀ v ∈ items, Distinct v) → Distinct (array items)
  | object {members : List (String × Json)} :
      (Entries.names members).Nodup → (∀ m ∈ members, Distinct m.2) → Distinct (object members)

theorem Distinct.of_member? {v w : Json} {name : String} (h : v.Distinct)
    (hw : v.member? name = some w) : w.Distinct := by
  cases h with
  | null | bool | number | string | array => cases hw
  | object hnames hmembers => exact hmembers (name, w) (Entries.mem_of_find? hw)

theorem Distinct.nodup_names {members : List (String × Json)} (h : (Json.object members).Distinct) :
    (Entries.names members).Nodup := by
  cases h with
  | object hnames => exact hnames

mutual
/-- Whether no object of the value names a member twice. -/
def isDistinct : Json → Bool
  | array items => areDistinct items
  | object members => decide (Entries.names members).Nodup && membersAreDistinct members
  | null | bool _ | number _ | string _ => true

def areDistinct : List Json → Bool
  | [] => true
  | v :: vs => isDistinct v && areDistinct vs

def membersAreDistinct : List (String × Json) → Bool
  | [] => true
  | (_, v) :: ms => isDistinct v && membersAreDistinct ms
end

mutual
theorem isDistinct_iff : (v : Json) → (v.isDistinct = true ↔ v.Distinct)
  | null => by simp [isDistinct, Distinct.null]
  | bool b => by simp [isDistinct, Distinct.bool]
  | number n => by simp [isDistinct, Distinct.number]
  | string s => by simp [isDistinct, Distinct.string]
  | array items => by
    rw [isDistinct, areDistinct_iff items]
    exact ⟨.array, fun | .array h => h⟩
  | object members => by
    rw [isDistinct, Bool.and_eq_true, decide_eq_true_iff, membersAreDistinct_iff members]
    exact ⟨fun h => .object h.1 h.2, fun | .object hn h => ⟨hn, h⟩⟩

theorem areDistinct_iff : (vs : List Json) → (areDistinct vs = true ↔ ∀ v ∈ vs, v.Distinct)
  | [] => by simp [areDistinct]
  | v :: vs => by
    rw [areDistinct, Bool.and_eq_true, isDistinct_iff v, areDistinct_iff vs, List.forall_mem_cons]

theorem membersAreDistinct_iff : (ms : List (String × Json)) →
    (membersAreDistinct ms = true ↔ ∀ m ∈ ms, m.2.Distinct)
  | [] => by simp [membersAreDistinct]
  | (_, v) :: ms => by
    rw [membersAreDistinct, Bool.and_eq_true, isDistinct_iff v, membersAreDistinct_iff ms,
      List.forall_mem_cons]
end

instance (v : Json) : Decidable v.Distinct := decidable_of_iff _ v.isDistinct_iff

example : ¬ (array [object [("a", null), ("b", null), ("a", bool true)]]).Distinct := by decide

end Json
end FeatureFlags
