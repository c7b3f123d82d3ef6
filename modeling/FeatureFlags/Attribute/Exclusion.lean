import FeatureFlags.Attribute.Reference

/-!
# Leaving out addressed subtrees

`Exclusion.copy` is a value without the members that a list of references addresses, and
`Exclusion.excluded` are the texts of the references that took something away, sorted and each once.
Both walk down the value with the paths that are still to be followed (`Pending`):

* at a member, the paths through other members are dropped, and the others lose their first name
  (`below`);
* a path that has come to its end takes the member away as a whole (`endingAt`), whatever else would
  lead on below it.

Invalid references and the empty path take nothing away (`pathsOf`), nor does a path that leads
through anything but objects. A reference below a member that is dropped is not reported (`hits`).
-/

namespace FeatureFlags
namespace Exclusion

/-- A path of names that is still to be followed, and the reference it comes from. -/
structure Pending where
  reference : Reference
  names : List String

/-- The paths that go on below the member `name`. -/
def below (name : String) (paths : List Pending) : List Pending :=
  paths.filterMap fun p =>
    match p.names with
    | first :: rest@(_ :: _) => if first = name then some ⟨p.reference, rest⟩ else none
    | _ => none

/-- The references that address the member `name` itself. -/
def endingAt (name : String) (paths : List Pending) : List Reference :=
  (paths.filter fun p => p.names == [name]).map Pending.reference

mutual
/-- The value without the members that the paths end at. -/
def prune (paths : List Pending) : Json → Json
  | .object members => .object (pruneMembers paths members)
  | v => v

def pruneMembers (paths : List Pending) : List (String × Json) → List (String × Json)
  | [] => []
  | (name, v) :: ms =>
    if (endingAt name paths).isEmpty then
      (name, prune (below name paths) v) :: pruneMembers paths ms
    else pruneMembers paths ms
end

mutual
def hits (paths : List Pending) : Json → List Reference
  | .object members => hitsMembers paths members
  | _ => []

/-- The references whose paths end at one of the members or, if that is kept, below it. -/
def hitsMembers (paths : List Pending) : List (String × Json) → List Reference
  | [] => []
  | (name, v) :: ms =>
    (if (endingAt name paths).isEmpty then hits (below name paths) v else endingAt name paths)
      ++ hitsMembers paths ms
end

def pathsOf (refs : List Reference) : List Pending :=
  (refs.filter fun r => r.isValid && !r.components.isEmpty).map fun r => ⟨r, r.components⟩

def sortedTexts (ss : List String) : List String :=
  (ss.mergeSort fun a b => decide (a ≤ b)).eraseDups

/-- The value without what the references address. -/
def copy (v : Json) (refs : List Reference) : Json := prune (pathsOf refs) v

/-- The texts of the references that took something away, sorted. -/
def excluded (v : Json) (refs : List Reference) : List String :=
  sortedTexts ((hits (pathsOf refs) v).map Reference.text)

end Exclusion
end FeatureFlags
