import Mathlib.Data.List.Forall2
import FeatureFlags.Text.Span
import FeatureFlags.Version
import FeatureFlags.Proofs.Number.Decimal

/-! # How versions are written

Numbers with points between them, an optional pre-release behind a hyphen, and an optional build
behind a plus sign (`Writes`). Each reader is held against its part of the grammar.

* **Numbers** (`number?_digits`, `of_number?_eq_some`) — digits without a leading zero, as long as
  the number has 64 bits.
* **Identifiers** (`identifier?_eq_some_iff`) — letters, digits and hyphens; of digits alone they
  are numbers, and without a leading zero then.
* **Pre-releases** (`preRelease?_append`, `of_preRelease?_eq_some`) — identifiers with points
  between them, up to a plus sign or the end.
* **Builds** (`isBuild_iff`) — like pre-releases, but no identifier in them is a number, so that
  zeros in front do no harm. -/

namespace FeatureFlags
namespace Version

open Decimal (digits)
open Digit (values)

variable {cs rest : List Char} {ids : List Identifier} {n : Nat}

/-! ## The grammar

The grammar says what is written for a version, in any number of ways. It does not follow the
readers: nothing in it stops at a character or depends on what comes after. -/

/-- Identifiers are not empty and consist of letters, digits and hyphens. -/
def IsIdentifierText (cs : List Char) : Prop := cs ≠ [] ∧ ∀ c ∈ cs, c.isAlphanum = true ∨ c = '-'

instance : DecidablePred IsIdentifierText := fun cs =>
  decidable_of_iff (cs ≠ [] ∧ cs.all (fun c => c.isAlphanum || c == '-') = true)
    (by simp [IsIdentifierText])

inductive WritesIdentifier : List Char → Identifier → Prop
  /-- digits without a leading zero -/
  | numeric (n : Nat) : WritesIdentifier (digits n) (.numeric n)
  /-- anything with a character that is no digit -/
  | word {cs : List Char} : IsIdentifierText cs → (∃ c ∈ cs, c.isDigit = false) →
      WritesIdentifier cs (.word (String.ofList cs))

/-- How a pre-release is written: nothing at all, or identifiers behind a hyphen. -/
inductive WritesPreRelease : List Char → List Identifier → Prop
  | release : WritesPreRelease [] []
  | identifiers {pieces : List (List Char)} {ids : List Identifier} : pieces ≠ [] →
      List.Forall₂ WritesIdentifier pieces ids →
        WritesPreRelease ('-' :: ['.'].intercalate pieces) ids

/-- How a build is written: nothing at all, or identifiers behind a plus sign. -/
inductive IsBuildText : List Char → Prop
  | none : IsBuildText []
  | identifiers {pieces : List (List Char)} : pieces ≠ [] →
      (∀ piece ∈ pieces, IsIdentifierText piece) → IsBuildText ('+' :: ['.'].intercalate pieces)

/-- What may follow the numbers: a pre-release and a build. -/
def WritesSuffix (cs : List Char) (ids : List Identifier) : Prop :=
  ∃ pre build, cs = pre ++ build ∧ WritesPreRelease pre ids ∧ IsBuildText build

def numbersText (ns : List Nat) : List Char := ['.'].intercalate (ns.map digits)

/-- The version of some numbers; missing ones are zero. -/
def ofNumbers (ns : List Nat) (ids : List Identifier) : Version :=
  ⟨ns.getD 0 0, ns.getD 1 0, ns.getD 2 0, ids⟩

/-- How a version is written: one to three numbers of 64 bits, and what may follow them. -/
inductive Writes : List Char → Version → Prop
  | mk {ns : List Nat} {suffix : List Char} {ids : List Identifier} :
      ns ≠ [] → ns.length ≤ 3 → (∀ n ∈ ns, n < UInt64.size) → WritesSuffix suffix ids →
        Writes (numbersText ns ++ suffix) (ofNumbers ns ids)

/-! ## Reading numbers

A number is read as far as digits go, so it has to be followed by something else. -/

theorem number?_append {row : List Char} (hrow : ∀ c ∈ row, c.isDigit = true)
    (hrest : Text.Stops Char.isDigit rest) :
    number? (row ++ rest)
      = if row = [] ∨ Digit.hasLeadingZero (values row) = true ∨
            UInt64.size ≤ Digit.number (values row) then none
        else some (Digit.number (values row), rest) := by
  unfold number?
  rw [Digit.takeDecimals_append hrow hrest]
  simp only [Bool.or_eq_true, List.isEmpty_iff, Digit.values_eq_nil_iff hrow, decide_eq_true_eq,
    or_assoc]

theorem number?_digits (hn : n < UInt64.size) (hrest : Text.Stops Char.isDigit rest) :
    number? (digits n ++ rest) = some (n, rest) := by
  rw [number?_append (fun c => Decimal.isDigit_of_mem_digits) hrest, if_neg,
    Decimal.number_values_digits]
  rw [Decimal.number_values_digits, Decimal.hasLeadingZero_digits]
  rintro (hnil | hzero | hsize)
  · exact Decimal.digits_ne_nil n hnil
  · cases hzero
  · omega

theorem of_number?_eq_some (h : number? cs = some (n, rest)) :
    cs = digits n ++ rest ∧ n < UInt64.size := by
  obtain ⟨row, rest', rfl, hrow, hrest⟩ := Digit.exists_row cs
  rw [number?_append hrow hrest] at h
  split at h
  · cases h
  · next hok =>
    obtain ⟨hne, hzero, hsize⟩ : row ≠ [] ∧ _ ∧ _ := by simpa only [not_or] using hok
    cases h
    rw [Decimal.digits_number_values hrow hne (Bool.eq_false_iff.mpr hzero)]
    exact ⟨rfl, by omega⟩

theorem point?_eq_some_iff : point? cs = some rest ↔ cs = '.' :: rest := by
  unfold point?
  split
  · next tail => simp [eq_comm]
  · next hne =>
    refine iff_of_false nofun fun h => hne rest h

/-! ## Reading identifiers

Digits alone are read as a number, and one other character makes a word of them. -/

theorem WritesIdentifier.isIdentifierText {id : Identifier} (h : WritesIdentifier cs id) :
    IsIdentifierText cs := by
  cases h with
  | numeric n =>
      refine ⟨Decimal.digits_ne_nil n, fun c hc => .inl ?_⟩
      rw [Char.isAlphanum, Decimal.isDigit_of_mem_digits hc, Bool.or_true]
  | word htext => exact htext

theorem identifier?_of_isDigit (h : ∀ c ∈ cs, c.isDigit = true) :
    identifier? cs
      = if cs = [] ∨ Digit.hasLeadingZero (values cs) = true then none
        else some (.numeric (Digit.number (values cs))) := by
  have hcut := Digit.takeDecimals_append h (Text.stops_nil Char.isDigit)
  rw [List.append_nil] at hcut
  rw [identifier?, hcut]
  simp only [← Digit.values_eq_nil_iff h]
  cases values cs with
  | nil => rfl
  | cons d ds => simp

theorem identifier?_of_not_isDigit {c : Char} (hc : c ∈ cs) (hnot : c.isDigit = false) :
    identifier? cs = some (.word (String.ofList cs)) := by
  obtain ⟨row, rest, rfl, hrow, hrest⟩ := Digit.exists_row cs
  rw [identifier?, Digit.takeDecimals_append hrow hrest]
  cases rest with
  | nil =>
      rw [List.append_nil] at hc
      rw [hrow c hc] at hnot
      cases hnot
  | cons c rest => cases values row <;> rfl

theorem identifier?_eq_some_iff {id : Identifier}
    (hchars : ∀ c ∈ cs, c.isAlphanum = true ∨ c = '-') :
    identifier? cs = some id ↔ WritesIdentifier cs id := by
  by_cases hdigits : ∀ c ∈ cs, c.isDigit = true
  -- A numeral is written in one way only; as a word it would need some other character.
  · rw [identifier?_of_isDigit hdigits]
    constructor
    · intro h
      split at h
      · cases h
      · next hok =>
        obtain ⟨hne, hzero⟩ := not_or.mp hok
        cases h
        have hwrites := WritesIdentifier.numeric (Digit.number (values cs))
        rwa [Decimal.digits_number_values hdigits hne (Bool.eq_false_iff.mpr hzero)] at hwrites
    · rintro (n | ⟨htext, c, hc, hnot⟩)
      · rw [Decimal.number_values_digits, Decimal.hasLeadingZero_digits, if_neg]
        simpa using Decimal.digits_ne_nil n
      · rw [hdigits c hc] at hnot
        cases hnot
  · obtain ⟨c, hc, hnot⟩ : ∃ c ∈ cs, c.isDigit = false := by simpa using hdigits
    rw [identifier?_of_not_isDigit hc hnot]
    constructor
    · intro h
      cases h
      exact .word ⟨List.ne_nil_of_mem hc, hchars⟩ ⟨c, hc, hnot⟩
    · rintro (n | ⟨htext, hword⟩)
      · rw [Decimal.isDigit_of_mem_digits hc] at hnot
        cases hnot
      · rfl

/-! ## Reading what follows the numbers

A list of identifiers is cut at its points. No identifier holds one, and no identifier is empty, so
the pieces are the identifiers. -/

/-- Pieces of identifier characters and points have identifier characters. -/
theorem alphanum_of_mem_split {piece : List Char}
    (hchars : ∀ c ∈ cs, isIdentifierChar c = true) (hpiece : piece ∈ Text.split '.' cs) :
    ∀ c ∈ piece, c.isAlphanum = true ∨ c = '-' := by
  intro c hc
  have hmem := hchars c (Text.mem_of_mem_split hpiece hc)
  have hpoint : c ≠ '.' := fun h => Text.separator_not_mem hpiece (h ▸ hc)
  simpa [isIdentifierChar, hpoint] using hmem

theorem IsIdentifierText.not_mem {piece : List Char} (h : IsIdentifierText piece) :
    '.' ∉ piece := by
  intro hmem
  rcases h.2 '.' hmem with h | h
  · exact absurd h (by decide)
  · exact absurd h (by decide)

/-- Identifiers with points between them hold no other characters. -/
theorem isIdentifierChar_of_mem {pieces : List (List Char)}
    (h : ∀ piece ∈ pieces, IsIdentifierText piece) :
    ∀ c ∈ ['.'].intercalate pieces, isIdentifierChar c = true := by
  intro c hc
  rcases Text.mem_intercalate hc with rfl | ⟨piece, hpiece, hc⟩
  · decide
  · rcases (h piece hpiece).2 c hc with h | rfl
    · simp [isIdentifierChar, h]
    · decide

theorem isBuild_iff : isBuild cs = true ↔ IsBuildText cs := by
  constructor
  · intro h
    unfold isBuild at h
    split at h
    · exact .none
    · next tail =>
      obtain ⟨hchars, hpieces⟩ := Bool.and_eq_true_iff.mp h
      rw [List.all_eq_true] at hchars hpieces
      have htexts : ∀ piece ∈ Text.split '.' tail, IsIdentifierText piece := by
        intro piece hpiece
        refine ⟨?_, alphanum_of_mem_split hchars hpiece⟩
        simpa using hpieces piece hpiece
      rw [← Text.intercalate_split '.' tail]
      exact .identifiers (Text.split_ne_nil '.' tail) htexts
    · cases h
  · rintro (_ | ⟨hne, htexts⟩)
    · rfl
    · next pieces =>
      show (List.all _ _ && List.all _ _) = true
      rw [Text.split_intercalate hne fun piece hpiece => (htexts piece hpiece).not_mem,
        Bool.and_eq_true, List.all_eq_true, List.all_eq_true]
      refine ⟨isIdentifierChar_of_mem htexts, fun piece hpiece => ?_⟩
      simpa using (htexts piece hpiece).1

/-- Behind a pre-release there is nothing, or a build. -/
theorem IsBuildText.head? (h : IsBuildText cs) : ∀ c ∈ cs.head?, c = '+' := by
  cases h with
  | none => nofun
  | identifiers => exact fun c hc => (Option.some.inj hc).symm

theorem mapM_identifier?_iff {pieces : List (List Char)}
    (h : ∀ piece ∈ pieces, ∀ c ∈ piece, c.isAlphanum = true ∨ c = '-') :
    pieces.mapM identifier? = some ids ↔ List.Forall₂ WritesIdentifier pieces ids := by
  induction pieces generalizing ids with
  | nil =>
      rw [List.forall₂_nil_left_iff]
      exact ⟨fun h => (Option.some.inj h).symm, fun h => h ▸ rfl⟩
  | cons piece pieces ih =>
      obtain ⟨hpiece, hpieces⟩ := List.forall_mem_cons.mp h
      rw [List.mapM_cons, List.forall₂_cons_left_iff]
      simp only [Option.bind_eq_bind, Option.bind_eq_some_iff, identifier?_eq_some_iff hpiece,
        ih hpieces, Option.pure_def, Option.some.injEq]
      constructor
      · rintro ⟨id, hid, ids, hids, rfl⟩
        exact ⟨id, ids, hid, hids, rfl⟩
      · rintro ⟨id, ids, hid, hids, rfl⟩
        exact ⟨id, hid, ids, hids, rfl⟩

theorem isIdentifierText_of_forall₂ {pieces : List (List Char)}
    (h : List.Forall₂ WritesIdentifier pieces ids) : ∀ piece ∈ pieces, IsIdentifierText piece := by
  induction h with
  | nil => nofun
  | cons hpiece _ ih => exact List.forall_mem_cons.mpr ⟨hpiece.isIdentifierText, ih⟩

theorem preRelease?_append {pre : List Char} (hpre : WritesPreRelease pre ids)
    (hrest : ∀ c ∈ rest.head?, c = '+') : preRelease? (pre ++ rest) = some (ids, rest) := by
  cases hpre with
  | release =>
      rw [List.nil_append]
      unfold preRelease?
      split
      · next tail => exact absurd (hrest '-' rfl) (by decide)
      · rfl
  | @identifiers pieces _ hne hids =>
      have htexts := isIdentifierText_of_forall₂ hids
      have hstops : Text.Stops isIdentifierChar rest := fun c hc => hrest c hc ▸ by decide
      obtain ⟨htake, hdrop⟩ := Text.takeWhile_eq_and_dropWhile_eq_iff.mpr
        ⟨rfl, isIdentifierChar_of_mem htexts, hstops⟩
      have hsplit := Text.split_intercalate hne fun piece hpiece => (htexts piece hpiece).not_mem
      rw [List.cons_append, preRelease?, htake, hdrop, hsplit,
        (mapM_identifier?_iff fun piece hpiece => (htexts piece hpiece).2).mpr hids]
      rfl

theorem of_preRelease?_eq_some (h : preRelease? cs = some (ids, rest)) :
    ∃ pre, cs = pre ++ rest ∧ WritesPreRelease pre ids := by
  unfold preRelease? at h
  split at h
  · next tail =>
    obtain ⟨htail, hchars, -⟩ := (Text.takeWhile_eq_and_dropWhile_eq_iff (p := isIdentifierChar)).mp
      ⟨rfl, rfl⟩
    obtain ⟨ids, hids, hsome⟩ := Option.bind_eq_some_iff.mp h
    cases hsome
    rw [mapM_identifier?_iff fun piece => alphanum_of_mem_split hchars] at hids
    have hpre := WritesPreRelease.identifiers (Text.split_ne_nil '.' _) hids
    rw [Text.intercalate_split] at hpre
    exact ⟨_, congrArg ('-' :: ·) htail, hpre⟩
  · cases h
    exact ⟨[], rfl, .release⟩

end Version
end FeatureFlags
