import FeatureFlags.Proofs.Context.Acceptance
import FeatureFlags.Proofs.Context.Integer

/-! # Canonical keys of values and of contexts

A canonical key can be read off a value as it stands (`canonicalKeyOf?`), or off the context that
the value is (`canonicalKey`). Only a legacy user is changed on the way to its context: its key
becomes text.

* **Scalar keys** (`keyText?_eq`) — text, numbers and booleans have the same text for both.
* **Nested keys** (`nestedKey?`) — an array or an object is a key for the context only. The context
  is named by its compact text, and the value has no canonical key at all.

So the two agree on every value that is a context, legacy users with a nested key apart
(`canonicalKey_of_ofJson`). -/

namespace FeatureFlags
namespace Context

variable {c : Context} {v key : Json} {members : Entries Json}

/-! ## Keys that are no scalars

Reading knows the texts of scalars only. Making a context falls back to compact text. -/

def isNested : Json → Bool
  | .array _ => true
  | .object _ => true
  | _ => false

/-- The key of a legacy user, if it is an array or an object. -/
def nestedKey? : Json → Option Json
  | .object members =>
    if isLegacy members then (Entries.find? "key" members).filter isNested else none
  | _ => none

theorem compact_ne_empty (h : isNested key = true) : key.compact ≠ "" := by
  intro hempty
  have hnil : key.render = [] := String.ofList_injective hempty
  cases key with
  | array items =>
      rw [Json.render] at hnil
      cases hnil
  | object members =>
      rw [Json.render] at hnil
      cases hnil
  | null | bool | number | string => cases h

/-- Scalars have a text of their own, and only arrays and objects take the compact one. -/
theorem keyText?_eq (hnull : key ≠ .null) :
    keyText? key = if isNested key then none else some (legacyKey key) := by
  cases key with
  | null => exact absurd rfl hnull
  | array | object => rfl
  | bool | string => rfl
  | number n =>
      cases hwhole : n.whole? <;> simp [keyText?, legacyKey, isNested, hwhole]

theorem getD_nonEmpty? (s : String) : (nonEmpty? s).getD "" = s := by
  unfold nonEmpty?
  split
  · next hempty => exact hempty.symm
  · rfl

/-! ## Legacy users

A value without a kind becomes a context by its key alone; all other members stay. -/

theorem canonicalKeyOf?_of_isLegacy (hlegacy : isLegacy members = true) :
    canonicalKeyOf? (.object members)
      = ((Entries.find? "key" members).bind keyText?).bind nonEmpty? := by
  unfold canonicalKeyOf?
  dsimp only
  rw [kind_eq_null hlegacy]
  cases Entries.find? "key" members with
  | none => rfl
  | some key => rfl

/-- A legacy user is named by the text of its key. -/
theorem canonicalKey_of_isLegacy (hlegacy : isLegacy members = true) (key : String) :
    canonicalKey ⟨Entries.insert "key" (.string key) members, true⟩ = key := by
  have hlegacy' : isLegacy (Entries.insert "key" (.string key) members) = true :=
    (isLegacy_insert_key members (.string key)).trans hlegacy
  rw [canonicalKey, toJson, canonicalKeyOf?_of_isLegacy hlegacy', Entries.find?_insert_self]
  exact getD_nonEmpty? key

/-- A value without a kind is a context for its key, which is there and not null. -/
theorem exists_key_of_isLegacy (hlegacy : isLegacy members = true)
    (h : ofJson (.object members) = .ok c) :
    ∃ key, Entries.find? "key" members = some key ∧ key ≠ .null ∧
      c = ⟨Entries.insert "key" (.string (legacyKey key)) members, true⟩ := by
  have hvalid : validate members true = .ok () :=
    (check_object members true).mp ((exists_ofJson_iff _).mp ⟨c, h⟩)
  unfold validate at hvalid
  rw [kind_eq_null hlegacy] at hvalid
  cases hkey : Entries.find? "key" members with
  | none =>
      rw [hkey] at hvalid
      cases hvalid
  | some key =>
      have hnull : key ≠ .null := by
        rintro rfl
        rw [hkey] at hvalid
        cases hvalid
      rw [ofJson_of_isLegacy hlegacy hkey hnull] at h
      exact ⟨key, rfl, hnull, (Except.ok.inj h).symm⟩

/-- A value that names its kind is the context as it stands. -/
theorem toJson_of_ofJson (hlegacy : isLegacy members = false)
    (h : ofJson (.object members) = .ok c) : c.toJson = .object members := by
  rw [ofJson_object, hlegacy] at h
  split at h
  · cases h
    rfl
  · cases h

/-! ## All contexts

For a value that names its kind there is nothing to compare: it is its own context. -/

/-- **Canonical keys of values and of contexts.** A value that is a context has the kinds of that
context. It has its canonical key too, whatever form it takes and whatever scalar its key is, unless
it is a legacy user whose key is an array or an object: then the context is named by the text of
that key, and the value by nothing. -/
theorem canonicalKey_of_ofJson (v : Json) (c : Context) (h : ofJson v = .ok c) :
    kindsOf v = c.kinds ∧
      ((canonicalKeyOf? v).getD "" = c.canonicalKey ↔ nestedKey? v = none) ∧
      ∀ key, nestedKey? v = some key →
        canonicalKeyOf? v = none ∧ c.canonicalKey = key.compact ∧ key.compact ≠ "" := by
  cases v with
  | null | bool | number | string | array => cases h
  | object members =>
      cases hlegacy : isLegacy members with
      | false =>
          have hsame := toJson_of_ofJson hlegacy h
          have hnone : nestedKey? (.object members) = none := by
            rw [nestedKey?, hlegacy]
            rfl
          rw [kinds, canonicalKey, hsame, hnone]
          exact ⟨rfl, iff_of_true rfl rfl, fun key hkey =>
            absurd hkey.symm (Option.some_ne_none key)⟩
      | true =>
          obtain ⟨key, hkey, hnull, rfl⟩ := exists_key_of_isLegacy hlegacy h
          have hkinds : kindsOf (.object members)
              = kinds ⟨Entries.insert "key" (.string (legacyKey key)) members, true⟩ := by
            have hraw : kinds ⟨members, true⟩ = [defaultKind] := kinds_of_isLegacy hlegacy
            rw [kinds_of_isLegacy ((isLegacy_insert_key members _).trans hlegacy)]
            exact hraw
          rw [canonicalKeyOf?_of_isLegacy hlegacy, canonicalKey_of_isLegacy hlegacy, hkey,
            Option.bind_some, keyText?_eq hnull, nestedKey?, hlegacy, if_pos rfl, hkey,
            Option.filter_some]
          refine ⟨hkinds, ?_⟩
          -- Only the text of a nested key is missing from the value.
          cases hnested : isNested key with
          | false =>
              exact ⟨iff_of_true (getD_nonEmpty? _) rfl, fun other hother =>
                absurd hother.symm (Option.some_ne_none other)⟩
          | true =>
              have hcompact : legacyKey key = key.compact := by
                rw [legacyKey, keyText?_eq hnull, hnested]
                rfl
              have hne : key.compact ≠ "" := compact_ne_empty hnested
              rw [hcompact]
              refine ⟨iff_of_false hne.symm (Option.some_ne_none key), fun other hother => ?_⟩
              obtain rfl := Option.some.inj hother
              exact ⟨rfl, rfl, hne⟩

/-- A legacy user with a number for its key is named alike before and after, one with an array is
not. -/
theorem canonicalKey_of_ofJson_scalar :
    let v : Json := .object [("name", .string "Bob"), ("key", .ofInt 42)]
    let w : Json := .object [("kind", .null), ("key", .array [.bool true])]
    ∃ c d, ofJson v = .ok c ∧ ofJson w = .ok d ∧ kindsOf v = c.kinds ∧
      (canonicalKeyOf? v).getD "" = c.canonicalKey ∧ canonicalKeyOf? w = none ∧
      d.canonicalKey = "[true]" := by
  intro v w
  have hc : ofJson v = .ok ⟨[("name", .string "Bob"), ("key", .string "42")], true⟩ := rfl
  have hd : ofJson w = .ok ⟨[("kind", .null), ("key", .string "[true]")], true⟩ := rfl
  obtain ⟨hkinds, hsame, -⟩ := canonicalKey_of_ofJson v _ hc
  obtain ⟨-, -, hnested⟩ := canonicalKey_of_ofJson w _ hd
  obtain ⟨hnone, htext, -⟩ := hnested (.array [.bool true]) rfl
  exact ⟨_, _, hc, hd, hkinds, hsame.mpr rfl, hnone, htext⟩

/-- Not every value that is a context has its canonical key. -/
theorem canonicalKeyOf?_ne_of_nested :
    let v : Json := .object [("key", .array [.ofInt 1])]
    ∃ c, ofJson v = .ok c ∧ c.canonicalKey = "[1]" ∧
      (canonicalKeyOf? v).getD "" ≠ c.canonicalKey := by
  refine ⟨⟨[("key", .string "[1]")], true⟩, rfl, rfl, ?_⟩
  decide

end Context
end FeatureFlags
