import FeatureFlags.Proofs.Attribute.Removal
import FeatureFlags.Proofs.Context.Privacy

/-! # What redaction has changed

A redacted part tells what has been taken away from it (`Accounts`).

* **Unchanged** is each attribute that no private reference begins with.
* **Missing** is an attribute that was there if a private reference leads to it, and then it is
  **listed** under `_meta` by each reference that does.
* **The list** is sorted, holds nothing twice, and all of it leads to something that was there. It
  is not there at all if no reference leads to anything (`silent`).

The references are those that take something away: they are private, valid and not protected, and
they lead anywhere at all (`removable`). One attribute is taken away without a word, whatever is
private: the list of private names, which has a meaning for legacy users alone but goes from every
context. -/

namespace FeatureFlags
namespace Context

variable {c : Context} {kind name : String} {part : Json} {everywhere : List String}
  {allPrivate : Bool} {names : List String} {r : Reference}

/-! ## The references that take something away

A redaction follows the paths of the removable references and no other ones. -/

/-- The private references by which attributes of a part are taken away: those that are valid, lead
anywhere and are not protected. -/
def removable (c : Context) (kind : String) (everywhere : List String) : List Reference :=
  (c.privateFor kind everywhere).filter fun r =>
    r.isValid ∧ r.components ≠ [] ∧ isProtected r.components = false

theorem mem_removable :
    r ∈ c.removable kind everywhere ↔ r ∈ c.privateFor kind everywhere ∧ r.isValid = true ∧
      r.components ≠ [] ∧ isProtected r.components = false := by
  rw [removable, List.mem_filter, decide_eq_true_iff]

/-- Exclusion follows the same paths as it does in a redaction. -/
theorem pathsOf_removable :
    Exclusion.pathsOf (c.removable kind everywhere)
      = Exclusion.pathsOf (c.redactions kind part everywhere false) := by
  have hredactions : c.redactions kind part everywhere false
      = (c.privateFor kind everywhere).filter fun r => !isProtected r.components := rfl
  rw [hredactions, removable, Exclusion.pathsOf, Exclusion.pathsOf, List.filter_filter,
    List.filter_filter]
  congr 1
  refine List.filter_congr fun r _ => ?_
  cases r.isValid <;> cases hprotected : isProtected r.components <;> simp

theorem mem_addressed_removable :
    names ∈ Exclusion.addressed (c.removable kind everywhere)
      ↔ ∃ r ∈ c.removable kind everywhere, r.components = names := by
  rw [Exclusion.mem_addressed]
  refine exists_congr fun r => and_congr_right fun hr => ?_
  obtain ⟨-, hvalid, hne, -⟩ := mem_removable.mp hr
  rw [and_iff_right hvalid, and_iff_right hne]

/-! ## The list of what was taken away

The list is read from the redacted value as anybody would read it: texts in an array, in an object
under `_meta`. It is missing where the array would be empty. -/

def redactedTexts (part : Json) : List String :=
  textsOf ((part.member? "_meta").bind (Json.member? "redactedAttributes"))

theorem textsOf_ofTexts (texts : List String) : textsOf (some (.ofTexts texts)) = texts := by
  show (texts.map Json.string).filterMap Json.text? = texts
  rw [List.filterMap_map]
  exact List.filterMap_some

/-- A redacted part describes privacy by the list of what was taken away, if anything was. -/
theorem member?_redactPart_meta :
    (c.redactPart kind part everywhere allPrivate).member? "_meta"
      = Entries.find? "_meta" (redactedMeta
          (Exclusion.excluded part (c.redactions kind part everywhere allPrivate))) := by
  unfold redactPart
  dsimp only
  cases part with
  | object members =>
      -- The `_meta` of the part is erased before the new one is put at the end.
      rw [Exclusion.copy, Exclusion.prune]
      show Entries.find? "_meta" (_ ++ _) = _
      rw [Entries.find?_append, Entries.find?_erase_of_ne (by decide), Entries.find?_erase_self,
        Option.none_or]
  | null | bool | number | string | array =>
      rw [Exclusion.copy, Exclusion.prune_of_members?_eq_none rfl,
        Exclusion.excluded_eq_nil_iff.mpr (Exclusion.hits_of_members?_eq_none rfl)]
      rfl

theorem redactedTexts_redactPart :
    redactedTexts (c.redactPart kind part everywhere allPrivate)
      = Exclusion.excluded part (c.redactions kind part everywhere allPrivate) := by
  rw [redactedTexts, member?_redactPart_meta, redactedMeta]
  split
  · next hempty => exact (List.isEmpty_iff.mp hempty).symm
  · exact textsOf_ofTexts _

theorem redactedTexts_eq_nil_iff :
    redactedTexts (c.redactPart kind part everywhere allPrivate) = []
      ↔ (c.redactPart kind part everywhere allPrivate).member? "_meta" = none := by
  rw [redactedTexts_redactPart, member?_redactPart_meta, redactedMeta]
  split
  · next hempty => exact iff_of_true (List.isEmpty_iff.mp hempty) rfl
  · next hlisted => exact iff_of_false (mt List.isEmpty_iff.mpr hlisted) (Option.some_ne_none _)

/-! ## The account

Each entry of the account is one of the facts about copies, said of the removable references. -/

structure Accounts (refs : List Reference) (part part' : Json) : Prop where
  unchanged : ∀ name, name ∉ ["_meta", "privateAttributeNames"] →
    (∀ r ∈ refs, r.components.head? ≠ some name) → part'.member? name = part.member? name
  missing : ∀ name, name ∉ ["_meta", "privateAttributeNames"] →
    (part.member? name).isSome = true →
      (part'.member? name = none ↔ ∃ r ∈ refs, r.components = [name])
  listed : ∀ r ∈ refs, ∀ name, r.components = [name] → (part.member? name).isSome = true →
    r.text ∈ redactedTexts part'
  sorted : (redactedTexts part').Pairwise (· < ·)
  resolves : ∀ r : Reference, r.text ∈ redactedTexts part' → r ∈ refs ∧ (r.get? part).isSome = true
  /-- Where no reference leads to anything, nothing is said about privacy. -/
  silent : part'.member? "_meta" = none ↔ ∀ r ∈ refs, r.get? part = none
  /-- The list of private names is taken away in any case, and is not listed for that. -/
  unlisted : part'.member? "privateAttributeNames" = none

/-- Beside what describes privacy, a redacted part has the members of the copy. -/
theorem member?_redactPart_copy (hname : name ∉ ["_meta", "privateAttributeNames"]) :
    (c.redactPart kind part everywhere false).member? name
      = (Exclusion.copy part (c.removable kind everywhere)).member? name := by
  simp only [List.mem_cons, List.not_mem_nil, or_false, not_or] at hname
  rw [member?_redactPart hname.1, if_neg hname.2, Exclusion.copy, Exclusion.copy, pathsOf_removable]

/-- A redacted part lists the references that are removable, resolve and stand below no other. -/
theorem text_mem_redactedTexts (hpart : part.Distinct) :
    r.text ∈ redactedTexts (c.redactPart kind part everywhere false)
      ↔ r ∈ c.removable kind everywhere ∧ (r.get? part).isSome = true ∧
          ∀ s ∈ c.removable kind everywhere, s.components <+: r.components →
            s.components = r.components := by
  have hexcluded : Exclusion.excluded part (c.redactions kind part everywhere false)
      = Exclusion.excluded part (c.removable kind everywhere) := by
    rw [Exclusion.excluded, Exclusion.excluded, pathsOf_removable]
  rw [redactedTexts_redactPart, hexcluded, Exclusion.text_mem_excluded hpart]
  constructor
  · rintro ⟨hmem, -, -, hfound, hfirst⟩
    exact ⟨hmem, hfound, fun s hs => hfirst _ (mem_addressed_removable.mpr ⟨s, hs, rfl⟩)⟩
  · rintro ⟨hmem, hfound, hfirst⟩
    obtain ⟨-, hvalid, hne, -⟩ := mem_removable.mp hmem
    refine ⟨hmem, hvalid, hne, hfound, fun path hpath => ?_⟩
    obtain ⟨s, hs, rfl⟩ := mem_addressed_removable.mp hpath
    exact hfirst s hs

/-- The attribute of a name is listed under every removable reference to that name. -/
theorem text_mem_redactedTexts_of_components (hpart : part.Distinct)
    (hr : r ∈ c.removable kind everywhere) (hcomponents : r.components = [name])
    (hthere : (part.member? name).isSome = true) :
    r.text ∈ redactedTexts (c.redactPart kind part everywhere false) := by
  refine (text_mem_redactedTexts hpart).mpr ⟨hr, ?_, fun s hs hbegins => ?_⟩
  · rwa [Reference.get?_of_ne_nil (hcomponents ▸ List.cons_ne_nil name []), hcomponents,
      Reference.descend_singleton]
  · obtain ⟨-, -, hne, -⟩ := mem_removable.mp hs
    refine hbegins.eq_of_length_le ?_
    rw [hcomponents]
    exact List.length_pos_iff.mpr hne

theorem accounts_redactPart (hpart : part.Distinct) :
    Accounts (c.removable kind everywhere) part (c.redactPart kind part everywhere false) where
  unchanged := by
    intro name hname h
    rw [member?_redactPart_copy hname]
    refine Exclusion.member?_copy_of_head? fun path hpath => ?_
    obtain ⟨r, hr, rfl⟩ := mem_addressed_removable.mp hpath
    exact h r hr
  missing := by
    intro name hname hthere
    rw [member?_redactPart_copy hname, Exclusion.member?_copy_eq_none_iff hthere,
      mem_addressed_removable]
  listed := by
    intro r hr name hcomponents hthere
    exact text_mem_redactedTexts_of_components hpart hr hcomponents hthere
  sorted := by
    rw [redactedTexts_redactPart]
    exact Exclusion.pairwise_excluded
  resolves := by
    intro r hr
    obtain ⟨hmem, hfound, -⟩ := (text_mem_redactedTexts hpart).mp hr
    exact ⟨hmem, hfound⟩
  silent := by
    rw [← redactedTexts_eq_nil_iff, redactedTexts_redactPart, Exclusion.excluded_eq_nil_iff,
      ← pathsOf_removable, ← Exclusion.excluded_eq_nil_iff,
      Exclusion.excluded_eq_nil_iff_get? hpart]
    refine forall₂_congr fun r hr => ?_
    obtain ⟨-, hvalid, hne, -⟩ := mem_removable.mp hr
    exact ⟨fun h => h hvalid hne, fun h _ _ => h⟩
  unlisted := by
    rw [member?_redactPart (by decide), if_pos rfl]

/-- **Redaction accounts for what it takes away.** The redacted context is a context of the same
kinds. In each part, an attribute that no private reference begins with has the value it had, and an
attribute that is missing is addressed by a private reference and listed under it. The list is in
order, names nothing twice and only what was there; it is left out if nothing was taken away. All of
this apart from the list of private names, which no redacted part has any more. -/
theorem redacted_accounts (v : Json) (hv : v.Distinct) (c : Context) (hc : ofJson v = .ok c)
    (everywhere : List String) :
    ∃ c', ofJson (c.redacted everywhere false) = .ok c' ∧ c'.toJson = c.redacted everywhere false ∧
      c'.kinds = c.kinds ∧ ∀ kind ∈ c.kinds, ∃ part part',
        c.part? kind = some part ∧ c'.part? kind = some part' ∧
        Accounts (c.removable kind everywhere) part part' := by
  obtain ⟨c', hjson, hvalid, hredaction⟩ := (valid_of_ofJson hc).redacted everywhere false
  refine ⟨c', ?_, hjson.symm, hredaction.kinds, fun kind hkind => ?_⟩
  · rw [hjson]
    exact hvalid.ofJson_toJson
  · obtain ⟨part, hpart, hpart'⟩ := hredaction.part? kind hkind
    have hdistinct : part.Distinct := distinct_of_part? (distinct_of_ofJson hv hc) hpart
    exact ⟨part, _, hpart, hpart', accounts_redactPart hdistinct⟩

/-- A legacy user, whose private names count, and a reference into a further attribute. -/
theorem redacted_accounts_legacy :
    let v : Json := .object [("key", .ofInt 7), ("mail", .string "m"), ("name", .string "n"),
      ("custom", .object [("plan", .string "p"), ("tier", .null)]), ("country", .string "NO"),
      ("privateAttributeNames", .array [.string "mail", .string "absent", .string "key"])]
    ∃ c c' part part', v.Distinct ∧ ofJson v = .ok c ∧
      ofJson (c.redacted ["/custom/plan", "name"] false) = .ok c' ∧
      c.part? "user" = some part ∧ c'.part? "user" = some part' ∧
      part'.member? "country" = part.member? "country" ∧ part'.member? "mail" = none ∧
      "/mail" ∈ redactedTexts part' ∧ "/absent" ∉ redactedTexts part' ∧
      part'.member? "privateAttributeNames" = none := by
  intro v
  let c : Context := ⟨Entries.insert "key" (.string "7") (v.members?.getD []), true⟩
  have hv : v.Distinct := by decide
  have hc : ofJson v = .ok c := by rfl
  obtain ⟨c', hjson, -, -, hparts⟩ := redacted_accounts v hv c hc ["/custom/plan", "name"]
  obtain ⟨part, part', hpart, hpart', haccounts⟩ := hparts "user" (by decide)
  obtain rfl : c.toJson = part := Option.some.inj hpart
  have hmail : (⟨"/mail"⟩ : Reference) ∈ c.removable "user" ["/custom/plan", "name"] := by
    decide +kernel
  refine ⟨c, c', _, part', hv, hc, hjson, hpart, hpart', ?_, ?_, ?_, ?_, haccounts.unlisted⟩
  · exact haccounts.unchanged "country" (by decide) (by decide +kernel)
  · exact (haccounts.missing "mail" (by decide) rfl).mpr ⟨_, hmail, by decide +kernel⟩
  · exact haccounts.listed _ hmail "mail" (by decide +kernel) rfl
  · intro habsent
    exact absurd (haccounts.resolves ⟨"/absent"⟩ habsent).2 (by decide +kernel)

/-- A list of private names that is no more than an attribute of its context: no reference is
private, and it is taken away without being listed. -/
theorem redacted_drops_unlisted :
    ∃ c, ofJson (.object [("kind", .string "user"), ("key", .string "u"),
        ("privateAttributeNames", .array [.string "x"])]) = .ok c ∧
      c.legacy = false ∧ c.removable "user" [] = [] ∧
      (c.toJson.member? "privateAttributeNames").isSome = true ∧
      ((c.redacted [] false).member? "privateAttributeNames").isSome = false ∧
      redactedTexts (c.redacted [] false) = [] := by
  refine ⟨⟨[("kind", .string "user"), ("key", .string "u"),
    ("privateAttributeNames", .array [.string "x"])], false⟩, rfl, ?_⟩
  decide +kernel

end Context
end FeatureFlags
