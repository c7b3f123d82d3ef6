import Mathlib.Data.List.Induction
import FeatureFlags.Entries

/-! # Entries that repeat a name

Pairs that become entries may repeat a name. The first pair of a name gives the place and the last
one the value (`find?_ofList`). So what is done to all values, or to all pairs of a name, can be
done before or after (`ofList_map`, `ofList_filter`).

Entries are built by inserting one pair after the other, so the lemmas on lists go by induction from
their end, each with a lemma on inserting beside it. Once no name is repeated, a lookup goes through
whatever is done to single values (`find?_filterMap_of_nodup`). -/

namespace FeatureFlags

namespace Entries

variable {α β : Type} {name : String} {es : Entries α}

def findLast? (name : String) (es : Entries α) : Option α := find? name es.reverse

theorem findLast?_append_singleton (e : String × α) :
    findLast? name (es ++ [e]) = if e.1 = name then some e.2 else findLast? name es := by
  rw [findLast?, List.reverse_append]
  rfl

theorem ofList_append_singleton (e : String × α) :
    ofList (es ++ [e]) = insert e.1 e.2 (ofList es) := by
  rw [ofList, List.foldl_append]
  rfl

/-- Of entries under one name the last one counts. -/
theorem find?_ofList : find? name (ofList es) = findLast? name es := by
  induction es using List.reverseRecOn with
  | nil => rfl
  | append_singleton es e ih =>
      rw [ofList_append_singleton, findLast?_append_singleton, find?_insert, ih]
      split <;> rfl

theorem nodup_names_ofList : (names (ofList es)).Nodup := by
  induction es using List.reverseRecOn with
  | nil => exact List.nodup_nil
  | append_singleton es e ih =>
      rw [ofList_append_singleton]
      exact nodup_names_insert ih e.1 e.2

theorem insert_map (f : α → β) (value : α) :
    insert name (f value) (es.map fun e => (e.1, f e.2))
      = (insert name value es).map fun e => (e.1, f e.2) := by
  induction es with
  | nil => rfl
  | cons e es ih =>
      rw [insert, List.map_cons, insert]
      split
      · rfl
      · exact congrArg (_ :: ·) ih

theorem ofList_map (f : α → β) :
    ofList (es.map fun e => (e.1, f e.2)) = (ofList es).map fun e => (e.1, f e.2) := by
  induction es using List.reverseRecOn with
  | nil => rfl
  | append_singleton es e ih =>
      rw [List.map_append, List.map_singleton, ofList_append_singleton, ofList_append_singleton, ih]
      exact insert_map f e.2

theorem filter_insert (keep : String → Bool) (value : α) :
    (insert name value es).filter (fun e => keep e.1)
      = if keep name then insert name value (es.filter fun e => keep e.1)
        else es.filter fun e => keep e.1 := by
  induction es with
  | nil =>
      rw [insert, List.filter_cons]
      rfl
  | cons e es ih =>
      rw [insert]
      by_cases he : e.1 = name
      · subst he
        rw [if_pos rfl, List.filter_cons, List.filter_cons]
        split
        · rw [insert, if_pos rfl]
        · rfl
      · rw [if_neg he, List.filter_cons, List.filter_cons, ih]
        split
        · split
          · rw [insert, if_neg he]
          · rfl
        · rfl

theorem ofList_filter (keep : String → Bool) :
    ofList (es.filter fun e => keep e.1) = (ofList es).filter fun e => keep e.1 := by
  induction es using List.reverseRecOn with
  | nil => rfl
  | append_singleton es e ih =>
      rw [List.filter_append, List.filter_cons, ofList_append_singleton, filter_insert, ← ih]
      split
      · exact ofList_append_singleton e
      · rw [List.filter_nil, List.append_nil]

theorem find?_filterMap_of_nodup (h : es.names.Nodup) (f : α → Option β) :
    find? name (es.filterMap fun e => (f e.2).map fun b => (e.1, b)) = (find? name es).bind f := by
  induction es with
  | nil => rfl
  | cons e es ih =>
      obtain ⟨hnew, hrest⟩ := List.nodup_cons.mp h
      rw [List.filterMap_cons, find?_cons]
      by_cases hname : e.1 = name
      -- The entry is the only one of its name, so where it gives nothing there is nothing.
      · subst hname
        rw [if_pos rfl, Option.bind_some]
        cases hf : f e.2 with
        | none =>
            refine (ih hrest).trans ?_
            rw [find?_eq_none_iff.mpr hnew]
            rfl
        | some b => exact if_pos rfl
      · rw [if_neg hname, ← ih hrest]
        cases f e.2 with
        | none => rfl
        | some b => exact if_neg hname

theorem find?_map (f : String → α → β) :
    find? name (es.map fun e => (e.1, f e.1 e.2)) = (find? name es).map (f name) := by
  induction es with
  | nil => rfl
  | cons e es ih =>
      rw [List.map_cons, find?_cons, find?_cons, ih]
      split
      · next h => rw [h]; rfl
      · rfl

end Entries

end FeatureFlags
