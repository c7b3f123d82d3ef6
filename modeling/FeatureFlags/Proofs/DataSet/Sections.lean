import FeatureFlags.DataSet
import FeatureFlags.Proofs.DataSet.LastEntry

/-! # The sections of a data set document

A data set document has a section of flags and one of segments. A section can be read if each of its
entries has a value, and what it comes to is told name by name: the last entry of the name, if it
decodes (`find?_decodable`). A data set is its two sections (`decode_eq_map_sections?`).

Whether a document has a value is one question, and whether an item can be decoded from it is
another. An entry without a value makes the whole document unreadable. An entry that has one, but
does not decode, is kept as that value first and dropped afterwards. -/

namespace FeatureFlags

variable {α : Type} {item : Decoder α}

/-! ## One entry

An entry is decoded to an item, or else to the value that it is. -/

namespace Isolated

def ofDocument (item : Decoder α) (d : Document) : Isolated α :=
  match item d with
  | some a => decoded a
  | none => failed (d.toJson?.getD .null)

theorem decode_eq (d : Document) :
    decode item d = if d.readable then some (ofDocument item d) else none := by
  unfold decode ofDocument Document.readable
  cases d.toJson? with
  | none => rfl
  | some v => cases item d <;> rfl

theorem value?_ofDocument (d : Document) : (ofDocument item d).value? = item d := by
  unfold ofDocument
  cases item d <;> rfl

theorem ofDocument_eq_decoded_iff {d : Document} {a : α} :
    ofDocument item d = decoded a ↔ item d = some a := by
  unfold ofDocument
  cases item d with
  | none => exact ⟨nofun, nofun⟩
  | some b => rw [decoded.injEq, Option.some.injEq]

theorem toJson_ofDocument {encode : α → Json} {d : Document} {v : Json} (h : item d = none)
    (hv : d.toJson? = some v) : (ofDocument item d).toJson encode = v := by
  rw [ofDocument, h, hv]
  rfl

end Isolated

/-! ## One section

The entries of a section can be collected first and decoded then, since decoding depends on the
single entry only. -/

namespace Decoder

/-- The entries of an object, if each of them has a value. -/
def readableEntries : Decoder (Entries Document)
  | .object members => do
    let es ← named? members
    guard (es.all fun e => e.2.readable)
    return es
  | _ => none

theorem mapM_isolated (es : Entries Document) :
    (es.mapM fun e => (Isolated.decode item e.2).map fun v => (e.1, v))
      = if es.all fun e => e.2.readable then
          some (es.map fun e => (e.1, Isolated.ofDocument item e.2))
        else none := by
  induction es with
  | nil => rfl
  | cons e es ih =>
      rw [List.mapM_cons, ih, Isolated.decode_eq, List.all_cons]
      cases e.2.readable with
      | false => rfl
      | true =>
          cases es.all fun e => e.2.readable <;> rfl

/-- A section can be read if each of its entries has a value, whether it decodes or not. -/
theorem entries_isolated (d : Document) :
    entries (Isolated.decode item) d = (readableEntries d).map fun es =>
      (Entries.ofList es).map fun e => (e.1, Isolated.ofDocument item e.2) := by
  cases d with
  | object members =>
      show (named? members >>= fun es => _ >>= _) = Option.map _ (named? members >>= _)
      cases named? members with
      | none => rfl
      | some es =>
          show List.mapM _ es >>= _ = Option.map _ (guard _ >>= _)
          rw [mapM_isolated]
          cases h : es.all fun e => e.2.readable with
          | false => rfl
          | true => exact congrArg some (Entries.ofList_map (Isolated.ofDocument item))
  | null | bool | number | string | array | unreadable => rfl

end Decoder

namespace DataSet

open Decoder (readableEntries)

def decodable (item : Decoder α) (es : Entries Document) : Entries α :=
  (Entries.ofList es).filterMap fun e => (item e.2).map fun a => (e.1, a)

theorem keep_isolated (es : Entries Document) :
    keep ((Entries.ofList es).map fun e => (e.1, Isolated.ofDocument item e.2))
      = decodable item es := by
  unfold keep decodable
  rw [List.filterMap_map]
  exact congrArg (List.filterMap · _) (funext fun e =>
    congrArg (Option.map _) (Isolated.value?_ofDocument e.2))

/-- Under a name stands what its last entry decodes to. -/
theorem find?_decodable (name : String) (es : Entries Document) :
    Entries.find? name (decodable item es) = (Entries.findLast? name es).bind item := by
  rw [decodable, Entries.find?_filterMap_of_nodup Entries.nodup_names_ofList, Entries.find?_ofList]

/-! ## The sections of a document

A section that is missing is empty. The two sections do not depend on each other. -/

/-- The entries that a document has for flags and for segments. A section that is missing has
none. -/
def sections? (doc : Document) : Option (Entries Document × Entries Document) := do
  let slot ← Decoder.record ["flags", "segments"] doc
  let flags ← (slot "flags").orElse [] readableEntries
  let segments ← (slot "segments").orElse [] readableEntries
  return (flags, segments)

theorem orElse_isolated (slot : Decoder.Slot) :
    (slot.orElse [] (Decoder.entries (Isolated.decode item))).map keep
      = (slot.orElse [] readableEntries).map (decodable item) := by
  cases slot with
  | missing | pastEnd => rfl
  | held d =>
      show (Decoder.entries (Isolated.decode item) d).map keep = _
      rw [Decoder.entries_isolated, Option.map_map]
      exact congrArg (Option.map · _) (funext keep_isolated)

/-- Two results that agree as far as they are used. -/
theorem bind_bind_eq_map {A A' B B' C D E : Type} {x : Option A} {x' : Option A'} {y : Option B}
    {y' : Option B'} {f : A → C} {f' : A' → C} {g : B → D} {g' : B' → D} {h : C → D → E}
    (hx : x.map f = x'.map f') (hy : y.map g = y'.map g') :
    (x >>= fun a => y >>= fun b => some (h (f a) (g b)))
      = (x' >>= fun a => y' >>= fun b => some (a, b)).map fun p => h (f' p.1) (g' p.2) := by
  cases x <;> cases x' <;> cases y <;> cases y' <;> simp_all

/-- A data set holds, section by section, the entries that decode. -/
theorem decode_eq_map_sections? (doc : Document) :
    decode doc = (sections? doc).map fun s =>
      ⟨decodable Flag.decode s.1, decodable Segment.decode s.2⟩ := by
  unfold decode sections?
  cases Decoder.record ["flags", "segments"] doc with
  | none => rfl
  | some slot =>
      exact bind_bind_eq_map (orElse_isolated (slot "flags")) (orElse_isolated (slot "segments"))

end DataSet

end FeatureFlags
