/-!
# Named entries in order

`Entries α` is a list of values under text names, in the order in which the names first arrived.
JSON objects, data sets, memberships and caches are all entries. Looking up takes the first entry of
a name; inserting under a present name keeps its place and replaces its value, so a list built by
insertion names nothing twice.

The statements here say what a look-up finds:

* after an insertion or a removal (`find?_insert`, `find?_erase_self`, `find?_erase_of_ne`);
* in entries put one behind the other, or made from names (`find?_append`, `find?_filterMap`);
* whatever the order of the entries, if no name is repeated (`find?_of_perm`).
-/

namespace FeatureFlags

abbrev Entries (α : Type) : Type := List (String × α)

namespace Entries

variable {α : Type}

def names (es : Entries α) : List String := es.map Prod.fst

/-- The value of the first entry called `name`. -/
def find? (name : String) : Entries α → Option α
  | [] => none
  | (n, v) :: es => if n = name then some v else find? name es

/-- Put `value` under `name`: in its old place if the name is present, else at the end. -/
def insert (name : String) (value : α) : Entries α → Entries α
  | [] => [(name, value)]
  | (n, v) :: es => if n = name then (n, value) :: es else (n, v) :: insert name value es

/-- Drop every entry called `name`. -/
def erase (name : String) (es : Entries α) : Entries α := es.filter fun e => e.1 ≠ name

/-- The entries of a list of pairs: of equal names, the first place and the last value. -/
def ofList (pairs : List (String × α)) : Entries α :=
  pairs.foldl (fun es e => insert e.1 e.2 es) []

/-! ### Looking up -/

@[simp] theorem find?_nil (name : String) : find? name ([] : Entries α) = none := rfl

theorem find?_cons (name n : String) (v : α) (es : Entries α) :
    find? name ((n, v) :: es) = if n = name then some v else find? name es := rfl

/-- Look-ups are related if the entries are, name by name. -/
theorem rel_find?_cons {R : α → α → Prop} {key name : String} {v₁ v₂ : α} {es₁ es₂ : Entries α}
    (hv : R v₁ v₂) (h : Option.Rel R (find? key es₁) (find? key es₂)) :
    Option.Rel R (find? key ((name, v₁) :: es₁)) (find? key ((name, v₂) :: es₂)) := by
  rw [find?_cons, find?_cons]
  split
  · exact .some hv
  · exact h

/-- A name is found exactly when it is among the names. -/
theorem find?_eq_none_iff {name : String} {es : Entries α} :
    find? name es = none ↔ name ∉ es.names := by
  induction es with
  | nil => simp [names]
  | cons e es ih =>
    obtain ⟨n, v⟩ := e
    by_cases h : n = name
    · simp [find?_cons, names, h]
    · have h' : ¬ name = n := fun e => h e.symm
      simpa [find?_cons, names, h, h'] using ih

theorem mem_names_of_find? {name : String} {es : Entries α} {v : α}
    (h : find? name es = some v) : name ∈ es.names := by
  by_cases hn : name ∈ es.names
  · exact hn
  · rw [find?_eq_none_iff.2 hn] at h
    cases h

theorem mem_of_find? {name : String} {es : Entries α} {v : α} (h : find? name es = some v) :
    (name, v) ∈ es := by
  induction es with
  | nil => cases h
  | cons e es ih =>
    obtain ⟨n, w⟩ := e
    rw [find?_cons] at h
    split at h
    · next hn =>
      cases h
      exact hn ▸ List.mem_cons_self
    · exact List.mem_cons_of_mem _ (ih h)

/-- Where no name is repeated, every entry is found under its name. -/
theorem find?_of_mem {es : Entries α} (h : es.names.Nodup) {e : String × α} (he : e ∈ es) :
    find? e.1 es = some e.2 := by
  induction es with
  | nil => cases he
  | cons first rest ih =>
    obtain ⟨hnew, hrest⟩ := List.nodup_cons.mp h
    rw [find?_cons]
    rcases List.mem_cons.mp he with rfl | he
    · exact if_pos rfl
    · rw [if_neg, ih hrest he]
      intro heq
      exact hnew (heq ▸ List.mem_map_of_mem he)

/-- Where no name is repeated, the order does not count. -/
theorem find?_of_perm {es es' : Entries α} (h : es.Perm es') (hnodup : es.names.Nodup)
    (name : String) : find? name es = find? name es' := by
  have hnodup' : es'.names.Nodup := (h.map Prod.fst).nodup_iff.mp hnodup
  refine Option.ext fun v => ?_
  constructor
  · intro hv
    exact find?_of_mem hnodup' (h.mem_iff.mp (mem_of_find? hv))
  · intro hv
    exact find?_of_mem hnodup (h.mem_iff.mpr (mem_of_find? hv))

/-- Of two lists of entries the first one counts. -/
theorem find?_append (name : String) (es es' : Entries α) :
    find? name (es ++ es') = (find? name es).or (find? name es') := by
  induction es with
  | nil => rfl
  | cons e es ih =>
    obtain ⟨n, v⟩ := e
    rw [List.cons_append, find?_cons, find?_cons, ih]
    split <;> rfl

/-- Entries made from names: a name is found if it is one of them and has a value. -/
theorem find?_filterMap (name : String) (value? : String → Option α) (ns : List String) :
    find? name (ns.filterMap fun n => (value? n).map fun v => (n, v))
      = if name ∈ ns then value? name else none := by
  induction ns with
  | nil => rfl
  | cons n ns ih =>
    cases hv : value? n with
    | none =>
      rw [List.filterMap_cons, hv]
      show find? name (ns.filterMap fun n => (value? n).map fun v => (n, v)) = _
      rw [ih]
      by_cases hn : name = n
      · subst hn
        simp [hv]
      · simp [hn]
    | some v =>
      rw [List.filterMap_cons, hv]
      show find? name ((n, v) :: ns.filterMap fun n => (value? n).map fun v => (n, v)) = _
      rw [find?_cons, ih]
      by_cases hn : n = name
      · subst hn
        simp [hv]
      · simp [hn, Ne.symm hn]

/-- What was inserted is found. -/
@[simp] theorem find?_insert_self (name : String) (value : α) (es : Entries α) :
    find? name (insert name value es) = some value := by
  induction es with
  | nil => simp [insert, find?]
  | cons e es ih =>
    obtain ⟨n, v⟩ := e
    by_cases h : n = name <;> simp [insert, find?, h, ih]

/-- An insertion changes no other name. -/
theorem find?_insert_of_ne {name other : String} (h : other ≠ name) (value : α) (es : Entries α) :
    find? other (insert name value es) = find? other es := by
  induction es with
  | nil => simp [insert, find?, Ne.symm h]
  | cons e es ih =>
    obtain ⟨n, v⟩ := e
    by_cases hn : n = name
    · simp [insert, find?, hn, Ne.symm h]
    · simp [insert, find?, hn, ih]

theorem find?_insert (name other : String) (value : α) (es : Entries α) :
    find? other (insert name value es)
      = (if name = other then some value else none).or (find? other es) := by
  by_cases h : name = other
  · subst h
    rw [if_pos rfl, find?_insert_self, Option.some_or]
  · rw [if_neg h, find?_insert_of_ne (Ne.symm h), Option.none_or]

/-- What is there already is put back in its place. -/
theorem insert_of_find? {name : String} {value : α} {es : Entries α}
    (h : find? name es = some value) : insert name value es = es := by
  induction es with
  | nil => cases h
  | cons e es ih =>
    obtain ⟨n, v⟩ := e
    rw [find?_cons] at h
    rw [insert]
    split at h
    · next hn =>
      cases h
      rw [if_pos hn]
    · next hn => rw [if_neg hn, ih h]

/-- What is there after an insertion was there before or has been inserted. -/
theorem mem_insert {name : String} {value : α} {es : Entries α} {e : String × α}
    (h : e ∈ insert name value es) : e = (name, value) ∨ e ∈ es := by
  induction es with
  | nil =>
    left
    exact List.mem_singleton.mp h
  | cons first rest ih =>
    obtain ⟨n, v⟩ := first
    rw [insert] at h
    split at h
    · next hn =>
      rcases List.mem_cons.mp h with h | h
      · left
        rw [h, hn]
      · exact .inr (List.mem_cons_of_mem _ h)
    · rcases List.mem_cons.mp h with h | h
      · exact .inr (List.mem_cons.mpr (.inl h))
      · exact (ih h).imp_right (List.mem_cons_of_mem _)

/-- The names after an insertion: a new name goes to the end, a present one moves nothing. -/
theorem names_insert (name : String) (value : α) (es : Entries α) :
    names (insert name value es) = if name ∈ es.names then es.names else es.names ++ [name] := by
  induction es with
  | nil => simp [insert, names]
  | cons e es ih =>
    obtain ⟨n, v⟩ := e
    simp only [names] at ih ⊢
    by_cases hn : n = name
    · simp [insert, hn]
    · have hn' : ¬ name = n := fun e => hn e.symm
      simp only [insert, hn, if_false, List.map_cons, ih, List.mem_cons, hn', false_or]
      split <;> simp_all

theorem nodup_names_insert {es : Entries α} (h : es.names.Nodup) (name : String) (value : α) :
    (names (insert name value es)).Nodup := by
  rw [names_insert]
  split
  · exact h
  · next hn =>
    rw [List.nodup_append]
    refine ⟨h, by simp, ?_⟩
    intro a ha b hb e
    rw [List.mem_singleton] at hb
    subst e
    subst hb
    exact hn ha

/-- A new name goes to the end with its value. -/
theorem insert_of_not_mem {name : String} {es : Entries α} (h : name ∉ es.names) (value : α) :
    insert name value es = es ++ [(name, value)] := by
  induction es with
  | nil => rfl
  | cons e es ih =>
    obtain ⟨n, v⟩ := e
    simp only [names, List.map_cons, List.mem_cons, not_or] at h
    rw [insert, if_neg (fun e => h.1 e.symm), ih h.2, List.cons_append]

/-- Pairs that repeat no name are entries as they stand. -/
theorem ofList_of_nodup {pairs : List (String × α)} (h : (names pairs).Nodup) :
    ofList pairs = pairs := by
  suffices ∀ (rest done : List (String × α)), (names (done ++ rest)).Nodup →
      rest.foldl (fun es e => insert e.1 e.2 es) done = done ++ rest by
    simpa [ofList] using this pairs [] (by simpa using h)
  intro rest
  induction rest with
  | nil => simp
  | cons e rest ih =>
    intro done hd
    have hn : e.1 ∉ names done := by
      simp only [names, List.map_append, List.map_cons, List.nodup_append] at hd
      exact fun hm => hd.2.2 e.1 hm e.1 (by simp) rfl
    rw [List.foldl_cons, insert_of_not_mem hn, ih _ (by simpa using hd), List.append_assoc]
    rfl

@[simp] theorem find?_erase_self (name : String) (es : Entries α) :
    find? name (erase name es) = none := by
  rw [find?_eq_none_iff]
  simp [erase, names]

theorem find?_erase_of_ne {name other : String} (h : other ≠ name) (es : Entries α) :
    find? other (erase name es) = find? other es := by
  induction es with
  | nil => rfl
  | cons e es ih =>
    obtain ⟨n, v⟩ := e
    have ih' : find? other (es.filter fun e => e.1 ≠ name) = find? other es := ih
    by_cases hn : n = name
    · have ho : ¬ n = other := fun e => h (e ▸ hn)
      simpa [erase, find?_cons, hn, Ne.symm h] using ih'
    · rw [erase, List.filter_cons_of_pos (by simpa using hn), find?_cons, find?_cons, ih']

/-! ### Names off a path

A search through stored things keeps to a path of names and never takes a name twice. What is left
of the names gets fewer with each step, which is why such a search ends. -/

/-- How many entries have a name that is not on a path. -/
def offPath (es : Entries α) (path : List String) : Nat := (es.names.filter (· ∉ path)).length

/-- A path that takes in one more of the names leaves fewer entries off it. -/
theorem offPath_cons_lt {es : Entries α} {path : List String} {name : String} (hp : name ∉ path)
    (hs : name ∈ es.names) : es.offPath (name :: path) < es.offPath path := by
  have split : es.names.filter (· ∉ name :: path)
      = (es.names.filter (· ∉ path)).filter (· ≠ name) := by
    rw [List.filter_filter]
    congr 1
    funext n
    by_cases h : n = name <;> simp [h]
  unfold offPath
  rw [split, List.length_filter_lt_length_iff_exists]
  exact ⟨name, by simp [hs, hp], by simp⟩

end Entries
end FeatureFlags
