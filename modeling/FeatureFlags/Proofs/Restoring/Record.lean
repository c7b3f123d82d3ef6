import Mathlib.Data.List.Nodup
import FeatureFlags.Rollout

/-! # Restoring what is encoded

A decoder restores a value if it makes of the value's encoding that very value (`Decoder.Restores`).
For a record this comes down to its members.

* **Tables** (`Json.present`) — the members that an encoder writes are those of a table of names
  with optional values, without the ones that have none.
* **Slots** (`record_present`) — whatever is left out, the slot of a name holds what the table has
  under it (`Slot.ofTable`).
* **Shared members** (`openRecord_present`, `sharedRecord_present`) — records whose members are
  shared out are read from the same table in two steps: first the names of the one, then those of
  the other.

What a slot comes to depends on how it is read: as a required member, as one with a default, or as
one that may have no value. There is one lemma for each of these. -/

namespace FeatureFlags

open Document (ofJson)

variable {α : Type} {item : Decoder α} {encode : α → Json}

namespace Decoder

/-- A decoder that comes to a value hands it on. -/
theorem bind_some {β : Type} {x : Option α} {k : α → Option β} {a : α} {b : β} (hx : x = some a)
    (hk : k a = some b) : (x >>= k) = some b := by
  rw [hx]
  exact hk

/-- Decoding what a value is encoded as gives the value back. -/
def Restores (decode : Decoder α) (encode : α → Json) (a : α) : Prop :=
  decode (ofJson (encode a)) = some a

/-! ## Scalars and lists

Lists are restored if their items are. -/

theorem restores_text (s : String) : Restores text Json.string s := rfl

theorem restores_bool (b : Bool) : Restores bool Json.bool b := rfl

theorem restores_reference (r : Reference) :
    Restores reference (fun r => Json.string r.text) r := rfl

theorem restores_int64 (n : Int64) : Restores int64 (fun n => Json.ofInt n.toInt) n := by
  have hleast : Binary64.least ≤ n.toInt := n.le_toInt
  have hgreatest : n.toInt ≤ Binary64.greatest := Int.lt_add_one_iff.mp n.toInt_lt
  show (if Binary64.least ≤ n.toInt ∧ n.toInt ≤ Binary64.greatest then some (Int64.ofInt n.toInt)
    else none) = some n
  rw [if_pos ⟨hleast, hgreatest⟩, Int64.ofInt_toInt]

theorem restores_nat (n : Nat) : Restores nat (fun n => Json.ofInt n) n := by
  show (if 0 ≤ (n : Int) then some (n : Int).toNat else none) = some n
  rw [if_pos (Int.natCast_nonneg n), Int.toNat_natCast]

/-- What is not finite has no number, so it is lost. -/
theorem restores_float {x : Float} (h : x.isFinite) : Restores float Json.ofFloat x := by
  unfold Restores
  rw [Json.ofFloat, if_pos h]
  rfl

theorem restores_json {v : Json} (h : v.Distinct) : Restores json id v :=
  Document.toJson?_ofJson h

theorem mapM_itemsOfJson {as : List α} (h : ∀ a ∈ as, Restores item encode a) :
    (Document.itemsOfJson (as.map encode)).mapM item = some as := by
  induction as with
  | nil => rfl
  | cons a as ih =>
      have hrest := ih fun b hb => h b (List.mem_cons_of_mem a hb)
      show ((ofJson (encode a)) :: Document.itemsOfJson (as.map encode)).mapM item = _
      rw [List.mapM_cons, h a List.mem_cons_self, hrest]
      rfl

theorem restores_list {as : List α} (h : ∀ a ∈ as, Restores item encode a) :
    Restores (list item) (fun as => .array (as.map encode)) as :=
  mapM_itemsOfJson h

theorem restores_texts (ss : List String) : Restores (list text) Json.ofTexts ss :=
  restores_list fun s _ => restores_text s

theorem restores_values {vs : List Json} (h : ∀ v ∈ vs, v.Distinct) :
    Restores (list json) Json.array vs := by
  have hlist := restores_list fun v hv => restores_json (h v hv)
  rwa [Restores, List.map_id] at hlist

/-! ## Slots

A member without a value is left out or written as null, and each reader has to take it as it is
written. -/

namespace Slot

def ofValue? : Option Json → Slot
  | some v => .held (ofJson v)
  | none => .missing

def ofTable (fields : Entries (Option Json)) (name : String) : Slot :=
  ofValue? (Entries.find? name fields).join

theorem required_ofValue? {a : α} (h : Restores item encode a) :
    required item (ofValue? (some (encode a))) = some a := h

theorem orElse_ofValue? {a default : α} (h : Restores item encode a) :
    orElse default item (ofValue? (some (encode a))) = some a := h

/-- A truth value that is left out is false. -/
theorem orElse_ofTrue (b : Bool) :
    orElse false bool (ofValue? (if b then some (.bool true) else none)) = some b := by
  cases b <;> rfl

/-- A member that is left out if there is no value. Its values are not written as null, since the
decoder refuses that. -/
theorem maybe_ofValue? (hnull : item .null = none) {a? : Option α}
    (h : ∀ a ∈ a?, Restores item encode a) : maybe item (ofValue? (a?.map encode)) = some a? := by
  cases a? with
  | none => rfl
  | some a =>
      have ha : item (ofJson (encode a)) = some a := h a rfl
      show maybe item (.held (ofJson (encode a))) = some (some a)
      unfold maybe
      split
      · next heq => rw [Slot.held.inj heq, hnull] at ha; cases ha
      · next heq => rw [← Slot.held.inj heq, ha]; rfl
      · next hnot => exact absurd rfl (hnot _)

/-- A member that is written as null if there is no value. -/
theorem maybeListed_ofValue (hnull : item .null = none) {a? : Option α}
    (h : ∀ a ∈ a?, Restores item encode a) :
    maybeListed item (ofValue? (some ((a?.map encode).getD .null))) = some a? := by
  cases a? with
  | none => rfl
  | some a => exact maybe_ofValue? hnull h

end Slot
end Decoder

/-! ## Members

The names of a table are not repeated, so that those of its members are not, and each is found under
its name. -/

namespace Json

def present (fields : Entries (Option Json)) : Entries Json :=
  fields.filterMap fun field => field.2.map fun v => (field.1, v)

@[simp] theorem present_nil : present [] = [] := rfl

@[simp] theorem memberIfSome_some (name : String) (v : Json) :
    memberIfSome name (some v) = [(name, v)] := rfl

theorem present_cons (name : String) (v? : Option Json) (fields : Entries (Option Json)) :
    present ((name, v?) :: fields) = memberIfSome name v? ++ present fields := by
  cases v? <;> rfl

theorem present_append (fields fields' : Entries (Option Json)) :
    present (fields ++ fields') = present fields ++ present fields' :=
  List.filterMap_append

theorem memberIfTrue_eq (name : String) (b : Bool) :
    memberIfTrue name b = memberIfSome name (if b then some (bool true) else none) := by
  cases b <;> rfl

theorem mem_present {fields : Entries (Option Json)} {member : String × Json}
    (h : member ∈ present fields) : (member.1, some member.2) ∈ fields := by
  obtain ⟨⟨name, v?⟩, hfield, hsome⟩ := List.mem_filterMap.mp h
  obtain ⟨v, rfl, rfl⟩ := Option.map_eq_some_iff.mp hsome
  exact hfield

theorem names_present_sublist (fields : Entries (Option Json)) :
    (Entries.names (present fields)).Sublist (Entries.names fields) := by
  induction fields with
  | nil => exact .slnil
  | cons field fields ih =>
      obtain ⟨name, v?⟩ := field
      cases v? with
      | none => exact ih.cons name
      | some v => exact ih.cons_cons name

/-- Of names that are not repeated, each one finds its own value. -/
theorem find?_present {fields : Entries (Option Json)} (h : (Entries.names fields).Nodup)
    (name : String) : Entries.find? name (present fields) = (Entries.find? name fields).join := by
  induction fields with
  | nil => rfl
  | cons field fields ih =>
      obtain ⟨n, v?⟩ := field
      obtain ⟨hnew, hrest⟩ := List.nodup_cons.mp h
      rw [present_cons, Entries.find?_append, ih hrest, Entries.find?_cons]
      by_cases hn : n = name
      · subst hn
        have hnone : Entries.find? n fields = none := Entries.find?_eq_none_iff.mpr hnew
        rw [if_pos rfl, hnone]
        cases v? with
        | none => rfl
        | some v => simp [memberIfSome, Entries.find?_cons]
      · rw [if_neg hn]
        cases v? with
        | none => rfl
        | some v => simp [memberIfSome, Entries.find?_cons, hn]

theorem distinct_present {fields : Entries (Option Json)} (hnodup : (Entries.names fields).Nodup)
    (h : ∀ field ∈ fields, ∀ v ∈ field.2, v.Distinct) : (object (present fields)).Distinct := by
  refine .object (hnodup.sublist (names_present_sublist fields)) fun member hmem => ?_
  exact h _ (mem_present hmem) _ rfl

theorem distinct_some {v : Json} (h : v.Distinct) : ∀ w ∈ some v, w.Distinct := by
  rintro w hw
  obtain rfl := Option.some.inj hw
  exact h

theorem distinct_map {write : α → Json} (h : ∀ a, (write a).Distinct) (a? : Option α) :
    ∀ v ∈ a?.map write, v.Distinct := by
  intro v hv
  obtain ⟨a, -, rfl⟩ := Option.map_eq_some_iff.mp hv
  exact h a

theorem distinct_ofText? : ∀ s : Option String, ∀ v ∈ ofText? s, v.Distinct :=
  distinct_map .string

theorem distinct_ofReference? : ∀ r : Option Reference, ∀ v ∈ ofReference? r, v.Distinct :=
  distinct_map fun r => .string r.text

theorem distinct_ofInt64? : ∀ n : Option Int64, ∀ v ∈ ofInt64? n, v.Distinct :=
  distinct_map fun _ => .number _

theorem distinct_ofFloat (x : Float) : (ofFloat x).Distinct := by
  unfold ofFloat
  split
  · exact .number _
  · exact .null

end Json

open Json (present)

namespace Decoder

def documents (members : Entries Json) : Entries Document := members.map fun m => (m.1, ofJson m.2)

theorem named?_membersOfJson (members : Entries Json) :
    named? (Document.membersOfJson members) = some (documents members) := by
  induction members with
  | nil => rfl
  | cons member members ih =>
      unfold named? at ih ⊢
      rw [Document.membersOfJson, List.mapM_cons, ih]
      rfl

theorem names_documents (members : Entries Json) :
    Entries.names (documents members) = Entries.names members := by
  simp [documents, Entries.names]

theorem find?_documents (name : String) (members : Entries Json) :
    Entries.find? name (documents members) = (Entries.find? name members).map ofJson := by
  induction members with
  | nil => rfl
  | cons member members ih =>
      show (if member.1 = name then _ else Entries.find? name (documents members)) = _
      rw [ih, Entries.find?_cons]
      split <;> rfl

variable {fields : Entries (Option Json)}

theorem eachOnce_documents (h : (Entries.names fields).Nodup) (names : List String) :
    eachOnce names (documents (present fields)) = true := by
  have hnodup : (Entries.names (documents (present fields))).Nodup := by
    rw [names_documents]
    exact h.sublist (Json.names_present_sublist fields)
  exact List.all_eq_true.mpr fun name _ =>
    decide_eq_true (List.nodup_iff_count_le_one.mp hnodup name)

/-- Whatever is left out, the slot of a name holds what the table has under it. -/
theorem memberSlot_documents (h : (Entries.names fields).Nodup) :
    memberSlot (documents (present fields)) = .ofTable fields := by
  funext name
  rw [memberSlot, find?_documents, Json.find?_present h, Slot.ofTable]
  cases (Entries.find? name fields).join <;> rfl

theorem record_present {names : List String} (hnames : Entries.names fields = names)
    (hnodup : names.Nodup) :
    record names (ofJson (.object (present fields))) = some (.ofTable fields) := by
  subst hnames
  refine bind_some (named?_membersOfJson (present fields)) ?_
  refine bind_some (if_pos (eachOnce_documents hnodup _)) ?_
  exact congrArg some (memberSlot_documents hnodup)

theorem sharedRecord_present (hnodup : (Entries.names fields).Nodup) (names : List String) :
    sharedRecord names (documents (present fields)) = some (.ofTable fields) := by
  rw [sharedRecord, if_pos (eachOnce_documents hnodup names), memberSlot_documents hnodup]

/-- The members that are not the record's own are those of the table's other names. -/
theorem filter_documents (own : List String) (fields : Entries (Option Json)) :
    (documents (present fields)).filter (fun m => !own.contains m.1)
      = documents (present (fields.filter fun field => !own.contains field.1)) := by
  induction fields with
  | nil => rfl
  | cons field fields ih =>
      obtain ⟨name, v?⟩ := field
      rw [List.filter_cons]
      cases v? with
      | none =>
          rw [Json.present_cons]
          split
          · rw [Json.present_cons]
            exact ih
          · exact ih
      | some v =>
          show ((name, ofJson v) :: documents (present fields)).filter _ = _
          rw [List.filter_cons, ih]
          split
          · rw [Json.present_cons]
            rfl
          · rfl

theorem openRecord_present {own : List String} (hnodup : (Entries.names fields).Nodup)
    (h : ∀ field ∈ fields.filter fun field => !own.contains field.1, ∀ v ∈ field.2, v.Distinct) :
    openRecord own (ofJson (.object (present fields)))
      = some (.ofTable fields,
          documents (present (fields.filter fun field => !own.contains field.1))) := by
  have hreadable : ∀ m ∈ documents (present (fields.filter fun field => !own.contains field.1)),
      m.2.readable := by
    intro m hm
    obtain ⟨member, hmember, rfl⟩ := List.mem_map.mp hm
    have hdistinct := h _ (Json.mem_present hmember) member.2 rfl
    exact Option.isSome_iff_exists.mpr ⟨member.2, Document.toJson?_ofJson hdistinct⟩
  refine bind_some (named?_membersOfJson (present fields)) ?_
  refine bind_some (if_pos (eachOnce_documents hnodup _)) ?_
  rw [filter_documents, memberSlot_documents hnodup]
  exact bind_some (if_pos (List.all_eq_true.mpr hreadable)) rfl

end Decoder
end FeatureFlags
