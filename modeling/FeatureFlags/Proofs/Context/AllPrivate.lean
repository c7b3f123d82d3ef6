import FeatureFlags.Proofs.Attribute.Name
import FeatureFlags.Proofs.Context.Redaction

/-! # Redacting everything

With all attributes private, a single context is left with what identifies it: its kind, its key and
`anonymous` keep their values. All other attributes go, as long as their names can be turned into
references (`IsReachable`).

The names of the attributes are turned into references because redaction leaves out references and
nothing else. A name that begins with a slash is escaped, and any other name is taken as a literal.
Not every literal is valid, so a name that is empty, or that looks like a damaged path, is passed
over and its value stays: `redacted_allPrivate` says exactly which. -/

namespace FeatureFlags
namespace Context

variable {c : Context} {kind name : String} {part : Json} {everywhere : List String}

/-! ## References to names

Whatever its text is, the reference that is made from a name has this name as its only component
(`components_referenceToName`). So no path goes on below an attribute, and whether one is left out
is a question of validity alone. -/

def identifying : List String := ["kind", "key", "anonymous"]

/-- The reference that is made from an attribute's name takes the attribute away. A leading slash is
escaped with all of the name; any other name is taken as it stands, and has to be a valid
reference. -/
def IsReachable (name : String) : Prop :=
  name.toList.head? = some '/' ∨
    name ≠ "" ∧ Reference.hasEmptyComponent name.toList = false ∧ name.toList.getLast? ≠ some '~'

instance (name : String) : Decidable (IsReachable name) :=
  inferInstanceAs (Decidable (_ ∨ _ ≠ "" ∧ _ = false ∧ _ ≠ some '~'))

theorem components_referenceToName (h : name ≠ "") :
    (referenceToName name).components = [name] := by
  unfold referenceToName
  split
  · exact Reference.components_ofName h
  · next hslash => exact Reference.components_mk h hslash

/-- The reference to a name is one that exclusion follows exactly if the name is reachable. -/
theorem isReachable_iff :
    IsReachable name ↔ name ≠ "" ∧ (referenceToName name).isValid = true := by
  unfold IsReachable referenceToName
  by_cases hslash : name.toList.head? = some '/'
  · have hne : name ≠ "" := by
      rintro rfl
      cases hslash
    simp [hslash, hne, Reference.isValid_ofName]
  · simp [hslash, Reference.isValid_mk hslash]

/-! ## One part

The list of private names that the part itself may hold is removed besides, as the description of
privacy is. -/

/-- Each path that is left out ends at one member: a reachable one that does not identify the
context. -/
theorem mem_pathsOf_redactions {p : Exclusion.Pending} :
    p ∈ Exclusion.pathsOf (c.redactions kind part everywhere true)
      ↔ ∃ n ∈ Entries.names (part.members?.getD []), (n ∉ identifying ∧ n ≠ "_meta") ∧
          IsReachable n ∧ p = ⟨referenceToName n, [n]⟩ := by
  have hprotected : ∀ n, isProtected [n] = false ↔ n ∉ identifying ∧ n ≠ "_meta" := by
    intro n
    simp [isProtected, identifying, and_assoc]
  unfold Exclusion.pathsOf redactions
  simp only [List.mem_map, List.mem_filter, if_pos]
  constructor
  · rintro ⟨_, ⟨⟨⟨n, hn, rfl⟩, hkept⟩, hvalid⟩, rfl⟩
    -- The empty name has a reference without names, which is never followed.
    have hne : n ≠ "" := by
      rintro rfl
      exact absurd hkept (by decide)
    rw [components_referenceToName hne] at hkept hvalid ⊢
    simp only [List.isEmpty_cons, Bool.not_false, Bool.and_true] at hvalid
    rw [Bool.not_eq_true'] at hkept
    exact ⟨n, hn, (hprotected n).mp hkept, isReachable_iff.mpr ⟨hne, hvalid⟩, rfl⟩
  · rintro ⟨n, hn, hkept, hreach, rfl⟩
    obtain ⟨hne, hvalid⟩ := isReachable_iff.mp hreach
    have hcomponents := components_referenceToName hne
    refine ⟨referenceToName n, ⟨⟨⟨n, hn, rfl⟩, ?_⟩, ?_⟩, ?_⟩
    · rw [hcomponents, (hprotected n).mpr hkept]
      rfl
    · simp [hcomponents, hvalid]
    · rw [hcomponents]

/-- No path goes on below a member. -/
theorem below_redactions :
    Exclusion.below name (Exclusion.pathsOf (c.redactions kind part everywhere true)) = [] := by
  refine List.eq_nil_iff_forall_not_mem.mpr fun q hq => ?_
  obtain ⟨hne, hp⟩ := Exclusion.mem_below.mp hq
  obtain ⟨n, -, -, -, heq⟩ := mem_pathsOf_redactions.mp hp
  injection heq with _ hnames
  exact hne (List.cons.inj hnames).2

/-- A member is left out if it is reachable and does not identify the context. -/
theorem endingAt_redactions (hmeta : name ≠ "_meta")
    (hmem : name ∈ Entries.names (part.members?.getD [])) :
    (Exclusion.endingAt name
        (Exclusion.pathsOf (c.redactions kind part everywhere true))).isEmpty = false
      ↔ name ∉ identifying ∧ IsReachable name := by
  rw [Exclusion.endingAt_nonempty_iff]
  constructor
  · rintro ⟨p, hp, hnames⟩
    obtain ⟨n, -, ⟨hkept, -⟩, hreach, rfl⟩ := mem_pathsOf_redactions.mp hp
    obtain rfl : n = name := List.singleton_inj.mp hnames
    exact ⟨hkept, hreach⟩
  · rintro ⟨hkept, hreach⟩
    exact ⟨_, mem_pathsOf_redactions.mpr ⟨name, hmem, ⟨hkept, hmeta⟩, hreach, rfl⟩, rfl⟩

theorem mem_names_of_member? {v : Json} (h : part.member? name = some v) :
    name ∈ Entries.names (part.members?.getD []) := by
  cases part with
  | object members => exact Entries.mem_names_of_find? h
  | null | bool | number | string | array => cases h

/-- **What is left of a part** with all attributes private, apart from the description of privacy
itself: the members that identify it, and those whose names are not reachable. -/
theorem member?_redactPart_allPrivate (hmeta : name ≠ "_meta") :
    (c.redactPart kind part everywhere true).member? name
      = if name ∈ identifying ∨ ¬ IsReachable name then part.member? name else none := by
  rw [member?_redactPart hmeta]
  by_cases hlisted : name = "privateAttributeNames"
  · subst hlisted
    rw [if_pos rfl, if_neg (by decide)]
  rw [if_neg hlisted, Exclusion.copy, Exclusion.member?_prune, below_redactions,
    show Exclusion.prune [] = id from funext Exclusion.prune_nil, Option.map_id_fun, id]
  cases hmember : part.member? name with
  | none => rw [ite_self, ite_self]
  | some v =>
      have hends : (Exclusion.endingAt name
          (Exclusion.pathsOf (c.redactions kind part everywhere true))).isEmpty = false
            ↔ name ∉ identifying ∧ IsReachable name :=
        endingAt_redactions hmeta (mem_names_of_member? hmember)
      -- The member is there, so whether it is left depends on its name only.
      by_cases hkept : name ∈ identifying ∨ ¬ IsReachable name
      · rw [if_pos hkept, if_pos]
        rw [← Bool.not_eq_false, hends]
        rintro ⟨hname, hreach⟩
        exact hkept.elim hname fun hnot => hnot hreach
      · obtain ⟨hname, hreach⟩ := not_or.mp hkept
        rw [if_neg hkept, if_neg]
        rw [Bool.not_eq_true, hends]
        exact ⟨hname, Decidable.not_not.mp hreach⟩

/-! ## The whole context -/

/-- **All optional attributes are private.** The redacted context is a context of the same kinds,
and each single context in it keeps its kind, its key and `anonymous`. Apart from these and the
description of privacy itself, a member is left exactly if its name is not reachable. -/
theorem redacted_allPrivate (v : Json) (c : Context) (hc : ofJson v = .ok c)
    (everywhere : List String) :
    ∃ c', ofJson (c.redacted everywhere true) = .ok c' ∧ c'.toJson = c.redacted everywhere true ∧
      c'.kinds = c.kinds ∧ ∀ kind ∈ c.kinds, ∃ part part',
        c.part? kind = some part ∧ c'.part? kind = some part' ∧
        ∀ name, name ≠ "_meta" → part'.member? name
          = if name ∈ identifying ∨ ¬ IsReachable name then part.member? name
            else none := by
  obtain ⟨c', hjson, hvalid, hredaction⟩ := (valid_of_ofJson hc).redacted everywhere true
  refine ⟨c', ?_, hjson.symm, hredaction.kinds, fun kind hkind => ?_⟩
  · rw [hjson]
    exact hvalid.ofJson_toJson
  · obtain ⟨part, hpart, hpart'⟩ := hredaction.part? kind hkind
    exact ⟨part, _, hpart, hpart', fun name hname => member?_redactPart_allPrivate hname⟩

/-- Of a context of two kinds nothing is left but what identifies its parts. -/
theorem redacted_allPrivate_multi :
    let v : Json := .object [("kind", .string "multi"),
      ("user", .object [("key", .string "u"), ("/home//page~", .string "x"),
        ("anonymous", .bool true)]),
      ("org", .object [("key", .string "o"), ("a/b~c", .string "y")])]
    ∃ c c', ofJson v = .ok c ∧ ofJson (c.redacted [] true) = .ok c' ∧ c'.kinds = ["user", "org"] ∧
      (∃ part', c'.part? "user" = some part' ∧ part'.member? "/home//page~" = none ∧
        part'.member? "anonymous" = some (.bool true)) ∧
      ∃ part', c'.part? "org" = some part' ∧ part'.member? "a/b~c" = none := by
  intro v
  have hc : ofJson v = .ok ⟨v.members?.getD [], false⟩ := rfl
  obtain ⟨c', hjson, -, hkinds, hparts⟩ := redacted_allPrivate v _ hc []
  have hthere : kinds ⟨v.members?.getD [], false⟩ = ["user", "org"] := rfl
  rw [hthere] at hkinds hparts
  refine ⟨_, c', hc, hjson, hkinds, ?_, ?_⟩
  · obtain ⟨part, part', hpart, hpart', hmember⟩ := hparts "user" (by decide)
    cases hpart
    exact ⟨part', hpart', hmember "/home//page~" (by decide), hmember "anonymous" (by decide)⟩
  · obtain ⟨part, part', hpart, hpart', hmember⟩ := hparts "org" (by decide)
    cases hpart
    exact ⟨part', hpart', hmember "a/b~c" (by decide)⟩

/-- Three attributes that are left although everything is private: their names are empty, hold two
slashes in a row, or end in a tilde. -/
theorem redacted_allPrivate_exposes :
    ∃ c, ofJson (.object [("kind", .string "user"), ("key", .string "u"), ("", .string "secret"),
        ("a//b", .string "secret"), ("t~", .string "secret")]) = .ok c ∧
      ∀ name ∈ ["", "a//b", "t~"],
        ((c.redacted [] true).member? name).bind Json.text? = some "secret" := by
  refine ⟨⟨[("kind", .string "user"), ("key", .string "u"), ("", .string "secret"),
    ("a//b", .string "secret"), ("t~", .string "secret")], false⟩, rfl, ?_⟩
  decide +kernel

end Context
end FeatureFlags
