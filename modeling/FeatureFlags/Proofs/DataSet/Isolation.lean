import Mathlib.Data.List.Basic
import Mathlib.Data.Option.Basic
import FeatureFlags.Proofs.DataSet.Sections

/-! # Failures stay where they are

In a data set document each entry is decoded for itself: an entry that fails leaves nothing behind
and leaves the others alone. So the document without the entries that fail is a document of the same
data set, and another value in the place of an entry changes nothing for the other names
(`decode_isolates`).

Other documents are made by changing the entries of the sections of one (`mapSections`). Two changes
count here: `withoutFailing` drops each name whose last entry fails, and `withInPlace` puts another
document in the place of an entry. Neither adds entries to a section that has none, nor does it put
something there that has no value (`KeepsReadable`); under these two conditions the changed document
can still be read, and its sections are the changed sections. -/

namespace FeatureFlags

variable {α : Type} {item : Decoder α} {doc : Document} {es flags segments : Entries Document}

/-! ## Documents with other entries

A record names its members or lists them in order, and it can repeat no member. A change keeps all
of that: the members that are there keep their names and places, and only what they hold becomes
another document. -/

namespace Document

def mapEntries (change : Entries Document → Entries Document) : Document → Document
  | object members =>
    match Decoder.named? members with
    | some es => object ((change es).map fun e => (some e.1, e.2))
    | none => object members
  | d => d

/-- The record with other members, whether it names them or lists them. -/
def mapMembers (names : List String) (change : String → Document → Document) : Document → Document
  | object members => object (members.map fun m => (m.1, (m.1.map (change · m.2)).getD m.2))
  | array items => array (List.zipWith change names items ++ items.drop names.length)
  | d => d

end Document

namespace Decoder

theorem named?_some (es : Entries Document) :
    named? (es.map fun e => (some e.1, e.2)) = some es := by
  induction es with
  | nil => rfl
  | cons e es ih =>
      unfold named? at ih ⊢
      rw [List.map_cons, List.mapM_cons, ih]
      rfl

theorem readableEntries_eq_some {d : Document} (h : readableEntries d = some es) :
    (∃ members, d = .object members ∧ named? members = some es) ∧ ∀ e ∈ es, e.2.readable := by
  cases d with
  | object members =>
      obtain ⟨es', hnamed, hrest⟩ := Option.bind_eq_some_iff.mp h
      obtain ⟨_, hguard, hes⟩ := Option.bind_eq_some_iff.mp hrest
      cases hes
      exact ⟨⟨members, rfl, hnamed⟩, List.all_eq_true.mp ((Option.guard_eq_some' _).mp hguard)⟩
  | null | bool | number | string | array | unreadable => cases h

theorem readableEntries_of_named? {members : List (Option String × Document)}
    (h : named? members = some es) (hreadable : ∀ e ∈ es, e.2.readable) :
    readableEntries (.object members) = some es := by
  show (named? members >>= fun es => guard (es.all fun e => e.2.readable) >>= fun _ => some es) = _
  rw [h, Option.bind_eq_bind, Option.bind_some, List.all_eq_true.mpr hreadable]
  rfl

/-- Entries that stay readable can be put in the place of others. -/
theorem readableEntries_mapEntries {change : Entries Document → Entries Document} {d : Document}
    (h : readableEntries d = some es) (hchange : ∀ e ∈ change es, e.2.readable) :
    readableEntries (d.mapEntries change) = some (change es) := by
  obtain ⟨⟨members, rfl, hnamed⟩, -⟩ := readableEntries_eq_some h
  rw [Document.mapEntries, hnamed]
  exact readableEntries_of_named? (named?_some (change es)) hchange

theorem named?_mapMembers (change : String → Document → Document)
    (members : List (Option String × Document)) :
    named? (members.map fun m => (m.1, (m.1.map (change · m.2)).getD m.2))
      = (named? members).map (List.map fun e => (e.1, change e.1 e.2)) := by
  induction members with
  | nil => rfl
  | cons m members ih =>
      obtain ⟨name, d⟩ := m
      unfold named? at ih ⊢
      rw [List.map_cons, List.mapM_cons, List.mapM_cons, ih]
      cases name with
      | none => rfl
      | some name => cases members.mapM fun m => m.1.map fun name => (name, m.2) <;> rfl

def Slot.map (change : Document → Document) : Slot → Slot
  | held d => held (change d)
  | slot => slot

theorem eachOnce_map (names : List String) (change : String → Document → Document) :
    eachOnce names (es.map fun e => (e.1, change e.1 e.2)) = eachOnce names es := by
  have hnames : Entries.names (es.map fun e => (e.1, change e.1 e.2)) = Entries.names es :=
    List.map_map
  unfold eachOnce
  rw [hnames]

theorem memberSlot_map (change : String → Document → Document) (name : String) :
    memberSlot (es.map fun e => (e.1, change e.1 e.2)) name
      = (memberSlot es name).map (change name) := by
  unfold memberSlot
  rw [Entries.find?_map]
  cases Entries.find? name es <;> rfl

/-- An array that lists no more members than there are names lists as many as before. -/
theorem zip_mapMembers {names : List String} {items : List Document}
    (h : items.length ≤ names.length) (change : String → Document → Document) :
    names.zip (List.zipWith change names items ++ items.drop names.length)
      = (names.zip items).map fun e => (e.1, change e.1 e.2) := by
  rw [List.drop_eq_nil_of_le h, List.append_nil]
  clear h
  induction names generalizing items with
  | nil => rfl
  | cons name names ih =>
      cases items with
      | nil => rfl
      | cons d items => exact congrArg (_ :: ·) ih

theorem itemSlot_mapMembers {names : List String} {items : List Document}
    (h : items.length ≤ names.length) (change : String → Document → Document) (name : String) :
    itemSlot names (List.zipWith change names items ++ items.drop names.length) name
      = (itemSlot names items name).map (change name) := by
  unfold itemSlot
  rw [zip_mapMembers h, Entries.find?_map]
  cases Entries.find? name (names.zip items) <;> rfl

theorem record_mapMembers {names : List String} {slot : String → Slot}
    (change : String → Document → Document) (h : record names doc = some slot) :
    record names (doc.mapMembers names change)
      = some fun name => (slot name).map (change name) := by
  cases doc with
  | object members =>
      obtain ⟨es, hnamed, hrest⟩ := Option.bind_eq_some_iff.mp h
      obtain ⟨_, honce, hslot⟩ := Option.bind_eq_some_iff.mp hrest
      cases hslot
      show (named? _ >>= fun es => guard (eachOnce names es) >>= fun _ => some (memberSlot es)) = _
      rw [named?_mapMembers, hnamed, Option.map_some, Option.bind_eq_bind, Option.bind_some,
        eachOnce_map, (Option.guard_eq_some' _).mp honce]
      exact congrArg some (funext (memberSlot_map change))
  | array items =>
      obtain ⟨_, hlength, hslot⟩ := Option.bind_eq_some_iff.mp h
      cases hslot
      -- The names run out last, so the items are changed one by one and nothing is left over.
      have hle : items.length ≤ names.length := (Option.guard_eq_some' _).mp hlength
      have hlength' : (List.zipWith change names items ++ items.drop names.length).length
          ≤ names.length := by
        rw [List.drop_eq_nil_of_le hle, List.append_nil, List.length_zipWith]
        exact Nat.min_le_left _ _
      show (guard _ >>= fun _ => some (itemSlot names _)) = _
      rw [guard, if_pos hlength']
      exact congrArg some (funext (itemSlot_mapMembers hle change))
  | null | bool | number | string | unreadable => cases h

end Decoder

namespace DataSet

open Decoder (readableEntries)

/-- The document with other entries in its sections. -/
def mapSections (onFlags onSegments : Entries Document → Entries Document) (doc : Document) :
    Document :=
  doc.mapMembers ["flags", "segments"] fun name =>
    if name = "flags" then Document.mapEntries onFlags
    else if name = "segments" then Document.mapEntries onSegments
    else id

/-- A change of entries that adds none to a missing section and leaves entries readable. -/
structure KeepsReadable (change : Entries Document → Entries Document) : Prop where
  nil : change [] = []
  readable : ∀ es, (∀ e ∈ es, e.2.readable) → ∀ e ∈ change es, e.2.readable

theorem orElse_map {change : Entries Document → Entries Document} (hchange : KeepsReadable change)
    {slot : Decoder.Slot} (h : slot.orElse [] readableEntries = some es) :
    (slot.map (Document.mapEntries change)).orElse [] readableEntries = some (change es) := by
  cases slot with
  | missing | pastEnd =>
      cases h
      exact congrArg some hchange.nil.symm
  | held d =>
      obtain ⟨-, hreadable⟩ := Decoder.readableEntries_eq_some h
      exact Decoder.readableEntries_mapEntries h (hchange.readable es hreadable)

theorem sections?_mapSections {onFlags onSegments : Entries Document → Entries Document}
    (hflags : KeepsReadable onFlags) (hsegments : KeepsReadable onSegments)
    (h : sections? doc = some (flags, segments)) :
    sections? (mapSections onFlags onSegments doc) = some (onFlags flags, onSegments segments) := by
  obtain ⟨slot, hslot, hrest⟩ := Option.bind_eq_some_iff.mp h
  obtain ⟨_, hf, hrest⟩ := Option.bind_eq_some_iff.mp hrest
  obtain ⟨_, hs, hrest⟩ := Option.bind_eq_some_iff.mp hrest
  cases hrest
  refine Option.bind_eq_some_iff.mpr ⟨_, Decoder.record_mapMembers _ hslot, ?_⟩
  refine Option.bind_eq_some_iff.mpr ⟨_, orElse_map hflags hf, ?_⟩
  exact Option.bind_eq_some_iff.mpr ⟨_, orElse_map hsegments hs, rfl⟩

/-- The entries without those under a name whose last entry fails. -/
def withoutFailing (item : Decoder α) (es : Entries Document) : Entries Document :=
  es.filter fun e => (Entries.findLast? e.1 es).any fun d => (item d).isSome

/-- The entries with another document under a name that is there. -/
def withInPlace (name : String) (d : Document) (es : Entries Document) : Entries Document :=
  es.map fun e => (e.1, if e.1 = name then d else e.2)

theorem decodable_withoutFailing (item : Decoder α) (es : Entries Document) :
    decodable item (withoutFailing item es) = decodable item es := by
  have hofList : Entries.ofList (withoutFailing item es) = (Entries.ofList es).filter fun e =>
      (Entries.findLast? e.1 es).any fun d => (item d).isSome :=
    Entries.ofList_filter fun name => (Entries.findLast? name es).any fun d => (item d).isSome
  rw [decodable, decodable, hofList, List.filterMap_filter]
  refine List.filterMap_congr fun e he => ?_
  -- Where the names are no longer repeated, an entry is the last one of its name.
  have hlast : Entries.findLast? e.1 es = some e.2 := by
    rw [← Entries.find?_ofList, Entries.find?_of_mem Entries.nodup_names_ofList he]
  rw [hlast, Option.any_some]
  cases item e.2 <;> rfl

theorem findLast?_withInPlace {name other : String} (hne : other ≠ name) (d : Document)
    (es : Entries Document) :
    Entries.findLast? other (withInPlace name d es) = Entries.findLast? other es := by
  have hreverse : (withInPlace name d es).reverse
      = es.reverse.map fun e => (e.1, if e.1 = name then d else e.2) := List.map_reverse.symm
  rw [Entries.findLast?, hreverse, Entries.find?_map fun n e => if n = name then d else e]
  simp only [if_neg hne, Option.map_id']
  rfl

theorem keepsReadable_id : KeepsReadable id := ⟨rfl, fun _ h => h⟩

theorem keepsReadable_withoutFailing (item : Decoder α) : KeepsReadable (withoutFailing item) where
  nil := rfl
  readable _ h e he := h e (List.mem_filter.mp he).1

theorem keepsReadable_withInPlace (name : String) {d : Document} (hd : d.readable) :
    KeepsReadable (withInPlace name d) where
  nil := rfl
  readable es h e he := by
    obtain ⟨entry, hentry, rfl⟩ := List.mem_map.mp he
    dsimp only
    split
    · exact hd
    · exact h entry hentry

/-- A document with other entries is the document of what these decode to. -/
theorem decode_mapSections {onFlags onSegments : Entries Document → Entries Document}
    (hflags : KeepsReadable onFlags) (hsegments : KeepsReadable onSegments)
    (h : sections? doc = some (flags, segments)) :
    decode (mapSections onFlags onSegments doc)
      = some ⟨decodable Flag.decode (onFlags flags),
          decodable Segment.decode (onSegments segments)⟩ := by
  rw [decode_eq_map_sections?, sections?_mapSections hflags hsegments h]
  rfl

theorem find?_decodable_withInPlace {name other : String} (hne : other ≠ name) (d : Document)
    (es : Entries Document) : Entries.find? other (decodable item (withInPlace name d es))
      = Entries.find? other (decodable item es) := by
  rw [find?_decodable, find?_decodable, findLast?_withInPlace hne]

theorem find?_decodable_eq_some_iff {name : String} {a : α} :
    Entries.find? name (decodable item es) = some a
      ↔ ∃ entry, Entries.findLast? name es = some entry ∧ item entry = some a := by
  rw [find?_decodable, Option.bind_eq_some_iff]

/-! ## Lists of values

In a list each item has a result of its own, so the list is as long as before. -/

/-- A list of values is decoded item by item, and no item fails the list. -/
theorem list_isolated {vs : List Json} (h : ∀ v ∈ vs, v.Distinct) :
    Decoder.list (Isolated.decode item) (.ofJson (.array vs))
      = some (vs.map fun v => Isolated.ofDocument item (.ofJson v)) := by
  show (Document.itemsOfJson vs).mapM (Isolated.decode item) = _
  induction vs with
  | nil => rfl
  | cons v vs ih =>
      obtain ⟨hv, hvs⟩ := List.forall_mem_cons.mp h
      have hdecode : Isolated.decode item (.ofJson v)
          = some (Isolated.ofDocument item (.ofJson v)) := by
        rw [Isolated.decode_eq, Document.readable, Document.toJson?_ofJson hv]
        rfl
      rw [Document.itemsOfJson, List.mapM_cons, hdecode, ih hvs]
      rfl

/-! ## The data set of a document -/

/-- **Failures are isolated.** A data set that a document is holds under each name exactly what the
last entry of the name decodes to, in either section. The same data set is what the document is
without the names whose last entry fails. And whatever value is put in the place of an entry, the
document is a data set still, and no other name has anything else. Likewise a list of values is
always a list of items, of which each one is what its own value decodes to, or else that value as it
stands. -/
theorem decode_isolates :
    (∀ (doc : Document) (d : DataSet), decode doc = some d →
      ∃ flags segments, sections? doc = some (flags, segments) ∧
        (∀ key f, Entries.find? key d.flags = some f ↔
          ∃ entry, Entries.findLast? key flags = some entry ∧ Flag.decode entry = some f) ∧
        (∀ key s, Entries.find? key d.segments = some s ↔
          ∃ entry, Entries.findLast? key segments = some entry ∧ Segment.decode entry = some s) ∧
        decode (mapSections (withoutFailing Flag.decode) (withoutFailing Segment.decode) doc)
          = some d ∧
        ∀ (key : String) (v : Document), v.readable →
          (∃ d', decode (mapSections (withInPlace key v) id doc) = some d' ∧
            d'.segments = d.segments ∧
            ∀ other, other ≠ key → Entries.find? other d'.flags = Entries.find? other d.flags) ∧
          ∃ d', decode (mapSections id (withInPlace key v) doc) = some d' ∧ d'.flags = d.flags ∧
            ∀ other, other ≠ key →
              Entries.find? other d'.segments = Entries.find? other d.segments) ∧
    ∀ vs : List Json, (∀ v ∈ vs, v.Distinct) →
      ∃ items, Decoder.list (Isolated.decode Flag.decode) (.ofJson (.array vs)) = some items ∧
        items.length = vs.length ∧
        ∀ (i : Nat) (v : Json) (item : Isolated Flag), vs[i]? = some v → items[i]? = some item →
          (∀ f, item = .decoded f ↔ Flag.decode (.ofJson v) = some f) ∧
          (Flag.decode (.ofJson v) = none → item.toJson Flag.toJson = v) := by
  constructor
  · intro doc d hd
    rw [decode_eq_map_sections?] at hd
    obtain ⟨⟨flags, segments⟩, hsections, rfl⟩ := Option.map_eq_some_iff.mp hd
    refine ⟨flags, segments, hsections, fun _ _ => find?_decodable_eq_some_iff,
      fun _ _ => find?_decodable_eq_some_iff, ?_, fun key v hv => ⟨?_, ?_⟩⟩
    · rw [decode_mapSections (keepsReadable_withoutFailing _) (keepsReadable_withoutFailing _)
        hsections, decodable_withoutFailing, decodable_withoutFailing]
    · exact ⟨_, decode_mapSections (keepsReadable_withInPlace key hv) keepsReadable_id hsections,
        rfl, fun other hne => find?_decodable_withInPlace hne v flags⟩
    · exact ⟨_, decode_mapSections keepsReadable_id (keepsReadable_withInPlace key hv) hsections,
        rfl, fun other hne => find?_decodable_withInPlace hne v segments⟩
  · intro vs hvs
    refine ⟨_, list_isolated hvs, List.length_map _, fun i v item hv hitem => ?_⟩
    rw [List.getElem?_map, hv] at hitem
    cases hitem
    refine ⟨fun f => Isolated.ofDocument_eq_decoded_iff, fun hfails => ?_⟩
    exact Isolated.toJson_ofDocument hfails
      (Document.toJson?_ofJson (hvs v (List.mem_of_getElem? hv)))

/-- A flag that is put in place of itself by something else, beside one that is well and a part that
has no value; and a list of a flag and something else. -/
theorem decode_isolates_repeated :
    let flag (key : String) : Document := .object [(some "key", .string key)]
    let doc : Document := .object [(some "notes", .unreadable),
      (some "flags", .object [(some "a", flag "a"), (some "b", flag "b"),
        (some "a", .array [.bool true])])]
    let vs : List Json := [.object [("key", .string "f")], .bool true]
    (∃ d, decode doc = some d ∧ Entries.find? "a" d.flags = none ∧
      (Entries.find? "b" d.flags).map Flag.key = some "b" ∧
      decode (mapSections (withoutFailing Flag.decode) (withoutFailing Segment.decode) doc)
        = some d) ∧
    (∀ v ∈ vs, v.Distinct) ∧
      ∃ items, Decoder.list (Isolated.decode Flag.decode) (.ofJson (.array vs)) = some items ∧
        items.length = 2 := by
  intro flag doc vs
  have hdoc : decode doc = some ⟨decodable Flag.decode [("b", flag "b")], []⟩ := rfl
  have hvs : ∀ v ∈ vs, v.Distinct := by
    refine List.forall_mem_cons.mpr ⟨.object (by simp [Entries.names]) ?_, ?_⟩
    · exact List.forall_mem_singleton.mpr (.string _)
    · exact List.forall_mem_singleton.mpr (.bool _)
  obtain ⟨-, -, -, -, -, hwithout, -⟩ := decode_isolates.1 doc _ hdoc
  obtain ⟨items, hitems, hlength, -⟩ := decode_isolates.2 vs hvs
  exact ⟨⟨_, hdoc, rfl, rfl, hwithout⟩, hvs, items, hitems, hlength⟩

end DataSet
end FeatureFlags
