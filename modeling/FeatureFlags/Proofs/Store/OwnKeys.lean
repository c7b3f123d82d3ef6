import FeatureFlags.Json.Reader
import FeatureFlags.Store

/-! # Keys in a store

A list of flags or segments is stored under their own keys, and so is what is inserted later. A
document that is read decides itself under which name an entry stands, and nobody compares that name
with the entry's key.

So what holds of everything under its own key, and of what documents say, holds of a store after any
run of changes (`Store.run_fits`). In particular an entry stands under its own key unless a document
has put it elsewhere (`Store.run_ownKey_or_read`). -/

namespace FeatureFlags

/-! ## Entries -/

namespace Entries

variable {α : Type} {name : String} {value : α} {es : Entries α} {e : String × α}

theorem mem_ofList {pairs : List (String × α)} (h : e ∈ ofList pairs) : e ∈ pairs := by
  have hfold : ∀ (done : Entries α), e ∈ pairs.foldl (fun es p => insert p.1 p.2 es) done →
      e ∈ done ∨ e ∈ pairs := by
    clear h
    induction pairs with
    | nil => exact fun done h => .inl h
    | cons p pairs ih =>
        intro done h
        rcases ih (insert p.1 p.2 done) h with h | h
        · rcases mem_insert h with h | h
          · exact .inr (List.mem_cons.mpr (.inl h))
          · exact .inl h
        · exact .inr (List.mem_cons_of_mem p h)
  rcases hfold [] h with h | h
  · cases h
  · exact h

end Entries

/-! ## Changes of a store

A data set comes from lists of flags and segments or from the text of a document. Nothing is kept of
how it was made. -/

/-- Where a data set comes from. -/
inductive DataSet.Origin where
  | lists (flags : List Flag) (segments : List Segment)
  | document (text : String)

/-- The data set; none if the text is no document of a data set. -/
def DataSet.Origin.dataSet? : Origin → Option DataSet
  | lists flags segments => some (.ofLists flags segments)
  | document text => (Json.read? text).bind DataSet.decode

inductive Store.Change where
  | setData (origin : DataSet.Origin)
  | upsertFlag (f : Flag)
  | upsertSegment (s : Segment)
  | setStatus (status : BigSegmentsStatus)
  | setMembership (contextKey : String) (m : Membership)

namespace Store

/-- The store after a change. A data set that cannot be read changes nothing. -/
def change (s : Store) : Change → Store
  | .setData origin => (origin.dataSet?.map fun d => (s.setData d).2).getD s
  | .upsertFlag f => (s.upsertFlag f).2
  | .upsertSegment g => (s.upsertSegment g).2
  | .setStatus status => s.setStatus status
  | .setMembership contextKey m => s.setMembership contextKey m

/-- The store after some changes, one after another, to an empty one. -/
def run (changes : List Change) : Store := changes.foldl change (ofData .empty)

end Store

/-! ## What holds of all entries

Two properties are given, of flags and of segments under a key, which hold of each under its own key
(`hflag`, `hsegment`). A data set fits them if all of its entries do. -/

structure DataSet.Fits (F : String → Flag → Prop) (S : String → Segment → Prop) (d : DataSet) :
    Prop where
  flags : ∀ e ∈ d.flags, F e.1 e.2
  segments : ∀ e ∈ d.segments, S e.1 e.2

section

variable {F : String → Flag → Prop} {S : String → Segment → Prop}
  (hflag : ∀ f : Flag, F f.key f) (hsegment : ∀ s : Segment, S s.key s)

include hflag hsegment

/-- Lists stand under their own keys. -/
theorem DataSet.ofLists_fits (flags : List Flag) (segments : List Segment) :
    (ofLists flags segments).Fits F S where
  flags e he := by
    obtain ⟨f, -, rfl⟩ := List.mem_map.mp (Entries.mem_ofList he)
    exact hflag f
  segments e he := by
    obtain ⟨s, -, rfl⟩ := List.mem_map.mp (Entries.mem_ofList he)
    exact hsegment s

/-- A change keeps what holds of everything under its own key, if it holds of what is read. -/
theorem Store.change_fits {s : Store} (h : s.data.Fits F S) {c : Change}
    (hread : ∀ text d, c = .setData (.document text) →
      (DataSet.Origin.document text).dataSet? = some d → d.Fits F S) :
    (s.change c).data.Fits F S := by
  cases c with
  | setStatus status => exact h
  | setMembership contextKey m => exact h
  | upsertFlag f =>
      refine ⟨fun e he => ?_, h.segments⟩
      rcases Entries.mem_insert he with rfl | he
      · exact hflag f
      · exact h.flags e he
  | upsertSegment g =>
      refine ⟨h.flags, fun e he => ?_⟩
      rcases Entries.mem_insert he with rfl | he
      · exact hsegment g
      · exact h.segments e he
  | setData origin =>
      cases origin with
      | lists flags segments => exact DataSet.ofLists_fits hflag hsegment flags segments
      | document text =>
          rw [change]
          cases hd : (DataSet.Origin.document text).dataSet? with
          | none => exact h
          | some d => exact hread text d rfl hd

/-- So does a whole run of changes. -/
theorem Store.run_fits {changes : List Change}
    (hread : ∀ text d, .setData (.document text) ∈ changes →
      (DataSet.Origin.document text).dataSet? = some d → d.Fits F S) :
    (run changes).data.Fits F S := by
  have hrun : ∀ s : Store, s.data.Fits F S → (changes.foldl change s).data.Fits F S := by
    induction changes with
    | nil => exact fun s h => h
    | cons c changes ih =>
        intro s h
        refine ih (fun text d hmem => hread text d (List.mem_cons_of_mem c hmem)) _ ?_
        refine change_fits hflag hsegment h fun text d hc => ?_
        exact hread text d (List.mem_cons.mpr (.inl hc.symm))
  refine hrun (ofData .empty) ⟨?_, ?_⟩
  · intro e he
    exact absurd he List.not_mem_nil
  · intro e he
    exact absurd he List.not_mem_nil

end

/-! ## Own keys

What is proved is the property to stand under the own key or to come from a document, which fits by
definition. -/

namespace Store

/-- A data set of this kind was read from a document during the run. -/
def WasRead (changes : List Change) (P : DataSet → Prop) : Prop :=
  ∃ text d, .setData (.document text) ∈ changes ∧
    (DataSet.Origin.document text).dataSet? = some d ∧ P d

/-- **Own keys.** After any run of changes, each flag and each segment stands under its own key,
unless it was read from a document that has it under the name where it stands. -/
theorem run_ownKey_or_read (changes : List Change) :
    (∀ e ∈ (run changes).data.flags, e.2.key = e.1 ∨ WasRead changes fun d => e ∈ d.flags) ∧
    ∀ e ∈ (run changes).data.segments, e.2.key = e.1 ∨
      WasRead changes fun d => e ∈ d.segments := by
  have hfits : (run changes).data.Fits
      (fun key f => f.key = key ∨ WasRead changes fun d => (key, f) ∈ d.flags)
      (fun key s => s.key = key ∨ WasRead changes fun d => (key, s) ∈ d.segments) := by
    refine run_fits (fun _ => .inl rfl) (fun _ => .inl rfl) fun text d hmem hd => ?_
    exact ⟨fun e he => .inr ⟨text, d, hmem, hd, he⟩, fun e he => .inr ⟨text, d, hmem, hd, he⟩⟩
  exact ⟨hfits.flags, hfits.segments⟩

/-- A document that names a flag and a segment otherwise than by their keys. -/
theorem run_misplaced :
    let text := "\x7b\"flags\":\x7b\"a\":\x7b\"key\":\"b\"\x7d\x7d,\"segments\":\x7b\"s\":\x7b\"key\":\"t\"\x7d\x7d\x7d"
    (run [.setData (.document text)]).data.flags.map (fun e => (e.1, e.2.key)) = [("a", "b")] ∧
      (run [.setData (.document text)]).data.segments.map (fun e => (e.1, e.2.key))
        = [("s", "t")] := by
  decide +kernel

end Store
end FeatureFlags
