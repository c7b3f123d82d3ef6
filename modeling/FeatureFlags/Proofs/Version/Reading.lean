import Mathlib.Tactic.Tauto
import FeatureFlags.Proofs.Version.Grammar

/-! # Versions read

Reading accepts the texts of versions and nothing else: those with three numbers as they are, those
with fewer once zeros are filled in (`ofPadded?_iff_writes`). A build may be put behind any of them
without another version being read (`ofPadded?_append_build`).

Zeros are filled in without a look at what follows. The text is cut where its characters are no
longer digits or points (`isNumberChar`), the pieces in front are counted, and `.0` is put behind
them until there are three (`padding`). Only then is the whole read, so what is filled in may turn
out to be no version. The other way round, where the whole is one the pieces in front must be its
numbers (`of_pad?_eq_some`), as a text can be cut in one way only (`IsNumberPieces.unique`). -/

namespace FeatureFlags
namespace Version

open Decimal (digits)

variable {cs suffix : List Char} {ids : List Identifier} {v : Version} {ns : List Nat}

/-! ## Suffixes

What follows the numbers begins with a hyphen or a plus sign, if there is anything. -/

theorem WritesSuffix.head? (h : WritesSuffix suffix ids) :
    ∀ c ∈ suffix.head?, c = '-' ∨ c = '+' := by
  obtain ⟨pre, build, rfl, hpre, hbuild⟩ := h
  cases hpre with
  | release => exact fun c hc => .inr (hbuild.head? c hc)
  | identifiers => exact fun c hc => .inl (Option.some.inj hc).symm

theorem WritesSuffix.stops (h : WritesSuffix suffix ids) {p : Char → Bool} (hminus : p '-' = false)
    (hplus : p '+' = false) : Text.Stops p suffix := by
  intro c hc
  rcases h.head? c hc with rfl | rfl
  · exact hminus
  · exact hplus

/-! ## Three numbers

A text with three numbers is read from front to back. -/

theorem numbersText_three (a b c : Nat) :
    numbersText [a, b, c] = digits a ++ '.' :: (digits b ++ '.' :: digits c) := by
  simp [numbersText, List.intercalate]

theorem ofChars?_numbersText {a b c : Nat} (ha : a < UInt64.size) (hb : b < UInt64.size)
    (hc : c < UInt64.size) (h : WritesSuffix suffix ids) :
    ofChars? (numbersText [a, b, c] ++ suffix) = some ⟨a, b, c, ids⟩ := by
  have hpoint (cs : List Char) : Text.Stops Char.isDigit ('.' :: cs) :=
    Text.stops_cons (by decide) cs
  have hstops : Text.Stops Char.isDigit suffix := h.stops (by decide) (by decide)
  obtain ⟨pre, build, hsuffix, hpre, hbuild⟩ := h
  have hread : preRelease? suffix = some (ids, build) :=
    hsuffix ▸ preRelease?_append hpre hbuild.head?
  rw [numbersText_three, List.append_assoc, List.cons_append, List.append_assoc, List.cons_append,
    ofChars?, number?_digits ha (hpoint _)]
  simp only [Option.bind_eq_bind, Option.bind_some, point?_eq_some_iff.mpr rfl,
    number?_digits hb (hpoint _), number?_digits hc hstops, hread, isBuild_iff.mpr hbuild]
  rfl

theorem of_ofChars?_eq_some (h : ofChars? cs = some v) :
    ∃ suffix, cs = numbersText [v.major, v.minor, v.patch] ++ suffix ∧
      WritesSuffix suffix v.preRelease ∧
      v.major < UInt64.size ∧ v.minor < UInt64.size ∧ v.patch < UInt64.size := by
  simp only [ofChars?, Option.bind_eq_bind, Option.bind_eq_some_iff, point?_eq_some_iff] at h
  obtain ⟨⟨a, _⟩, ha, _, rfl, ⟨b, _⟩, hb, _, rfl, ⟨c, tail⟩, hc, ⟨ids, build⟩, hpre, _,
    hbuild, hv⟩ := h
  obtain ⟨rfl, hasize⟩ := of_number?_eq_some ha
  obtain ⟨hb, hbsize⟩ := of_number?_eq_some hb
  obtain ⟨hc, hcsize⟩ := of_number?_eq_some hc
  obtain ⟨pre, rfl, hids⟩ : ∃ pre, tail = pre ++ build ∧ WritesPreRelease pre ids :=
    of_preRelease?_eq_some hpre
  have hbuild : isBuild build = true := by
    by_contra hnot
    rw [guard, if_neg hnot] at hbuild
    cases hbuild
  cases hv
  refine ⟨pre ++ build, ?_, ⟨pre, build, rfl, hids, isBuild_iff.mp hbuild⟩, hasize, hbsize, hcsize⟩
  rw [hb, hc, numbersText_three]
  simp only [List.append_assoc, List.cons_append]

/-! ## Fewer numbers

The pieces of a text with fewer numbers are completed to three, and with four or more there is
nothing to complete. -/

def isNumberChar (c : Char) : Bool := Digit.isDecimal c || c == '.'

/-- Pieces of number characters without the points. -/
def IsNumberPieces (pieces : List (List Char)) : Prop :=
  ∀ piece ∈ pieces, ∀ c ∈ piece, isNumberChar c = true ∧ c ≠ '.'

theorem isNumberPieces_of_isDigit {pieces : List (List Char)}
    (h : ∀ piece ∈ pieces, ∀ c ∈ piece, c.isDigit = true) : IsNumberPieces pieces := by
  intro piece hpiece c hc
  have hdigit := h piece hpiece c hc
  refine ⟨by rw [isNumberChar, Digit.isDecimal_eq, hdigit, Bool.true_or], ?_⟩
  rintro rfl
  cases hdigit

theorem isNumberPieces_map_digits (ns : List Nat) : IsNumberPieces (ns.map digits) := by
  refine isNumberPieces_of_isDigit fun piece hpiece c hc => ?_
  obtain ⟨n, -, rfl⟩ := List.mem_map.mp hpiece
  exact Decimal.isDigit_of_mem_digits hc

/-- Where such pieces end is seen from the characters, and where each of them ends too. -/
theorem IsNumberPieces.cut {pieces : List (List Char)} {rest : List Char}
    (h : IsNumberPieces pieces) (hne : pieces ≠ []) (hrest : Text.Stops isNumberChar rest) :
    Text.split '.' ((['.'].intercalate pieces ++ rest).takeWhile isNumberChar) = pieces ∧
      (['.'].intercalate pieces ++ rest).dropWhile isNumberChar = rest := by
  have hfront : ∀ c ∈ ['.'].intercalate pieces, isNumberChar c = true := by
    intro c hc
    rcases Text.mem_intercalate hc with rfl | ⟨piece, hpiece, hc⟩
    · decide
    · exact (h piece hpiece c hc).1
  obtain ⟨htake, hdrop⟩ := Text.takeWhile_eq_and_dropWhile_eq_iff.mpr ⟨rfl, hfront, hrest⟩
  refine ⟨?_, hdrop⟩
  rw [htake]
  exact Text.split_intercalate hne fun piece hpiece hmem => (h piece hpiece '.' hmem).2 rfl

/-- A text is cut into such pieces and what follows them in one way only. -/
theorem IsNumberPieces.unique {pieces pieces' : List (List Char)} {rest rest' : List Char}
    (h : IsNumberPieces pieces) (h' : IsNumberPieces pieces') (hne : pieces ≠ [])
    (hne' : pieces' ≠ []) (hrest : Text.Stops isNumberChar rest)
    (hrest' : Text.Stops isNumberChar rest')
    (heq : ['.'].intercalate pieces ++ rest = ['.'].intercalate pieces' ++ rest') :
    pieces = pieces' ∧ rest = rest' := by
  obtain ⟨hpieces, hdrop⟩ := h.cut hne hrest
  obtain ⟨hpieces', hdrop'⟩ := h'.cut hne' hrest'
  rw [heq] at hpieces hdrop
  exact ⟨hpieces.symm.trans hpieces', hdrop.symm.trans hdrop'⟩

theorem WritesSuffix.stopsNumbers (h : WritesSuffix suffix ids) : Text.Stops isNumberChar suffix :=
  h.stops (by decide) (by decide)

theorem map_digits_ne_nil (h : ns ≠ []) : ns.map digits ≠ [] := mt List.map_eq_nil_iff.mp h

def padding (ns : List Nat) : List Nat := List.replicate (3 - ns.length) 0

theorem map_padding (ns : List Nat) :
    (padding ns).map digits = List.replicate (3 - ns.length) ['0'] :=
  List.map_replicate

theorem ofNumbers_padding (ns : List Nat) (ids : List Identifier) :
    ofNumbers (ns ++ padding ns) ids = ofNumbers ns ids := by
  match ns with
  | [] | [_] | [_, _] | _ :: _ :: _ :: _ => rfl

theorem pad?_eq (cs : List Char) :
    pad? cs
      = let parts := Text.split '.' (cs.takeWhile isNumberChar)
        if 3 < parts.length ∨ [] ∈ parts then none
        else some (['.'].intercalate (parts ++ List.replicate (3 - parts.length) ['0']) ++
          cs.dropWhile isNumberChar) := by
  unfold pad?
  simp only [Bool.or_eq_true, decide_eq_true_eq, List.any_eq_true, List.isEmpty_iff,
    exists_eq_right]
  rfl

theorem pad?_numbersText (hne : ns ≠ []) (hlen : ns.length ≤ 3) (h : WritesSuffix suffix ids) :
    pad? (numbersText ns ++ suffix) = some (numbersText (ns ++ padding ns) ++ suffix) := by
  obtain ⟨hpieces, hdrop⟩ :=
    (isNumberPieces_map_digits ns).cut (map_digits_ne_nil hne) h.stopsNumbers
  have hnil : [] ∉ ns.map digits := fun hnil => by
    obtain ⟨n, -, hn⟩ := List.mem_map.mp hnil
    exact Decimal.digits_ne_nil n hn
  simp only [pad?_eq, numbersText, hpieces, hdrop, List.length_map]
  rw [if_neg (not_or.mpr ⟨not_lt.mpr hlen, hnil⟩), List.map_append, map_padding]

/-- The pieces in front are numbers if they are numbers once filled up. -/
theorem numbers_of_padded {parts : List (List Char)} {a b c : Nat}
    (h : parts ++ List.replicate (3 - parts.length) ['0'] = [a, b, c].map digits) :
    ∃ ns, parts = ns.map digits ∧ [a, b, c] = ns ++ padding ns := by
  obtain ⟨ns, zeros, habc, rfl, hzeros⟩ := List.map_eq_append_iff.mp h.symm
  refine ⟨ns, rfl, ?_⟩
  rw [List.length_map, ← map_padding] at hzeros
  rw [habc, List.map_injective_iff.mpr Decimal.digits_injective hzeros]

/-- Filling up finds the numbers in front, if the whole is a version then. -/
theorem of_pad?_eq_some {padded : List Char} (hpad : pad? cs = some padded)
    (h : ofChars? padded = some v) : Writes cs v := by
  obtain ⟨suffix, hpadded, hsuffix, hmajor, hminor, hpatch⟩ := of_ofChars?_eq_some h
  have hcs : ['.'].intercalate (Text.split '.' (cs.takeWhile isNumberChar)) ++
      cs.dropWhile isNumberChar = cs := by
    rw [Text.intercalate_split, List.takeWhile_append_dropWhile]
  have hpieces : IsNumberPieces (Text.split '.' (cs.takeWhile isNumberChar)) :=
    fun part hpart c hc =>
      ⟨Text.forall_mem_takeWhile isNumberChar cs c (Text.mem_of_mem_split hpart hc),
        fun h => Text.separator_not_mem hpart (h ▸ hc)⟩
  have hne := Text.split_ne_nil '.' (cs.takeWhile isNumberChar)
  simp only [pad?_eq] at hpad
  generalize Text.split '.' (cs.takeWhile isNumberChar) = parts at *
  split at hpad
  · cases hpad
  · next hok =>
    -- What has been filled up is cut like the three numbers that were read from it.
    have hfilled : IsNumberPieces (parts ++ List.replicate (3 - parts.length) ['0']) := by
      intro part hpart c hc
      rcases List.mem_append.mp hpart with hpart | hpart
      · exact hpieces part hpart c hc
      · rw [List.eq_of_mem_replicate hpart, List.mem_singleton] at hc
        exact hc ▸ by decide
    obtain ⟨hparts, hrest⟩ := hfilled.unique
      (isNumberPieces_map_digits [v.major, v.minor, v.patch])
      (List.append_ne_nil_of_left_ne_nil hne _) (List.cons_ne_nil _ _)
      (Text.stops_dropWhile isNumberChar cs) hsuffix.stopsNumbers
      ((Option.some.inj hpad).trans hpadded)
    obtain ⟨ns, rfl, hns⟩ := numbers_of_padded hparts
    have hsizes : ∀ n ∈ [v.major, v.minor, v.patch], n < UInt64.size := by
      simp [hmajor, hminor, hpatch]
    have hv : v = ofNumbers ns v.preRelease := by
      rw [← ofNumbers_padding, ← hns]
      rfl
    rw [hrest] at hcs
    rw [hv, ← hcs]
    refine .mk (fun hnil => hne (hnil ▸ rfl)) ?_ (fun n hn => hsizes n ?_) hsuffix
    · have hlen := (not_or.mp hok).1
      rw [List.length_map] at hlen
      omega
    · rw [hns]
      exact List.mem_append_left _ hn

/-- A text that is read as it is has three numbers. -/
theorem length_eq_of_ofChars? (hne : ns ≠ []) (h : WritesSuffix suffix ids)
    (hread : ofChars? (numbersText ns ++ suffix) = some v) : ns.length = 3 := by
  obtain ⟨suffix', heq, hsuffix', -⟩ := of_ofChars?_eq_some hread
  obtain ⟨hnumbers, -⟩ := (isNumberPieces_map_digits ns).unique
    (isNumberPieces_map_digits [v.major, v.minor, v.patch]) (map_digits_ne_nil hne)
    (List.cons_ne_nil _ _) h.stopsNumbers hsuffix'.stopsNumbers heq
  simpa using congrArg List.length hnumbers

theorem ofChars?_padding (hne : ns ≠ []) (hlen : ns.length ≤ 3) (hsize : ∀ n ∈ ns, n < UInt64.size)
    (h : WritesSuffix suffix ids) :
    ofChars? (numbersText (ns ++ padding ns) ++ suffix) = some (ofNumbers ns ids) := by
  have hzero : 0 < UInt64.size := by decide
  match ns, hne, hlen with
  | [a], _, _ => exact ofChars?_numbersText (hsize a (by simp)) hzero hzero h
  | [a, b], _, _ => exact ofChars?_numbersText (hsize a (by simp)) (hsize b (by simp)) hzero h
  | [a, b, c], _, _ =>
    exact ofChars?_numbersText (hsize a (by simp)) (hsize b (by simp)) (hsize c (by simp)) h

theorem ofPadded?_iff_writes {text : String} :
    ofPadded? text = some v ↔ Writes text.toList v := by
  unfold ofPadded?
  generalize text.toList = cs
  constructor
  · intro h
    split at h
    · next w hread =>
      cases h
      obtain ⟨suffix, heq, hsuffix, hmajor, hminor, hpatch⟩ := of_ofChars?_eq_some hread
      rw [heq]
      have hsizes : ∀ n ∈ [v.major, v.minor, v.patch], n < UInt64.size := by
        simp [hmajor, hminor, hpatch]
      exact .mk (List.cons_ne_nil _ _) (Nat.le_refl 3) hsizes hsuffix
    · obtain ⟨padded, hpad, hread⟩ := Option.bind_eq_some_iff.mp h
      exact of_pad?_eq_some hpad hread
  · rintro ⟨hne, hlen, hsize, hsuffix⟩
    next ns suffix ids =>
    have hfull := ofChars?_padding hne hlen hsize hsuffix
    split
    · next w hread =>
      -- What is read as it is needs no zeros, so it is the text that is filled up.
      have hlength := length_eq_of_ofChars? hne hsuffix hread
      have hnone : padding ns = [] := by rw [padding, hlength]; rfl
      rw [hnone, List.append_nil, hread] at hfull
      exact hfull
    · exact Option.bind_eq_some_iff.mpr ⟨_, pad?_numbersText hne hlen hsuffix, hfull⟩

/-! ## Builds

A pre-release holds no plus sign, so the build is what stands behind the first one. -/

theorem WritesPreRelease.plus_not_mem {pre : List Char} (h : WritesPreRelease pre ids) :
    '+' ∉ pre := by
  cases h with
  | release => exact List.not_mem_nil
  | identifiers _ hids =>
      intro hmem
      rcases List.mem_cons.mp hmem with h | hmem
      · exact absurd h (by decide)
      · have hchar := isIdentifierChar_of_mem (isIdentifierText_of_forall₂ hids) '+' hmem
        exact absurd hchar (by decide)

theorem plus_not_mem_numbersText (ns : List Nat) : '+' ∉ numbersText ns := by
  intro hmem
  rcases Text.mem_intercalate hmem with h | ⟨piece, hpiece, hc⟩
  · exact absurd h (by decide)
  · exact absurd (isNumberPieces_map_digits ns piece hpiece '+' hc).1 (by decide)

/-- A version is written up to its build, and any build may stand behind that. -/
theorem Writes.exists_core (h : Writes cs v) :
    ∃ core build, cs = core ++ build ∧ '+' ∉ core ∧ IsBuildText build ∧
      ∀ build', IsBuildText build' → Writes (core ++ build') v := by
  obtain ⟨hne, hlen, hsize, pre, build, rfl, hpre, hbuild⟩ := h
  next ns ids =>
  refine ⟨numbersText ns ++ pre, build, (List.append_assoc _ _ _).symm, ?_, hbuild, ?_⟩
  · rw [List.mem_append, not_or]
    exact ⟨plus_not_mem_numbersText ns, hpre.plus_not_mem⟩
  · intro build' hbuild'
    rw [List.append_assoc]
    exact .mk hne hlen hsize ⟨pre, build', rfl, hpre, hbuild'⟩

/-- The build starts at the first plus sign. -/
theorem IsBuildText.cut {core core' build build' : List Char} (hcore : '+' ∉ core)
    (hcore' : '+' ∉ core') (hbuild : IsBuildText build) (hbuild' : IsBuildText build')
    (h : core ++ build = core' ++ build') : core = core' := by
  have htake {core build : List Char} (hcore : '+' ∉ core) (hbuild : IsBuildText build) :
      (core ++ build).takeWhile (· != '+') = core := by
    refine Text.takeWhile_append (fun c hc => ?_) fun c hc => ?_
    · exact bne_iff_ne.mpr fun h => hcore (h ▸ hc)
    · rw [hbuild.head? c hc]
      rfl
  rw [← htake hcore hbuild, h, htake hcore' hbuild']

theorem writes_append_build {core build : List Char} (hcore : '+' ∉ core)
    (hbuild : IsBuildText build) : Writes (core ++ build) v ↔ Writes core v := by
  constructor
  · intro h
    obtain ⟨core', build', heq, hcore', hbuild', hwrites⟩ := h.exists_core
    have hnone := hwrites [] .none
    rwa [List.append_nil, ← IsBuildText.cut hcore hcore' hbuild hbuild' heq] at hnone
  · intro h
    obtain ⟨core', build', heq, hcore', hbuild', hwrites⟩ := h.exists_core
    have hsame : core = core' :=
      IsBuildText.cut hcore hcore' .none hbuild' ((List.append_nil core).trans heq)
    exact hsame ▸ hwrites build hbuild

/-- The build takes no part in what is read. -/
theorem ofPadded?_append_build {core : String} {build : List Char} (hcore : '+' ∉ core.toList)
    (hbuild : IsBuildText build) {text : String} (htext : text.toList = core.toList ++ build) :
    ofPadded? text = ofPadded? core := by
  refine Option.ext fun v => ?_
  rw [ofPadded?_iff_writes, ofPadded?_iff_writes, htext, writes_append_build hcore hbuild]

example : ofPadded? "2.1+linux" = ofPadded? "2.1" := by decide

/-! ## What is not read

What a text must not hold in order to be read: another character than those of versions, too many
numbers or an empty one in front, or something else than a digit as its first character. -/

def IsVersionChar (c : Char) : Prop := c.isAlphanum = true ∨ c = '.' ∨ c = '-' ∨ c = '+'

theorem IsVersionChar.of_isIdentifierChar {c : Char} (h : isIdentifierChar c = true) :
    IsVersionChar c := by
  simp only [isIdentifierChar, Bool.or_eq_true, beq_iff_eq] at h
  unfold IsVersionChar
  tauto

theorem WritesSuffix.isVersionChar (h : WritesSuffix suffix ids) :
    ∀ c ∈ suffix, IsVersionChar c := by
  obtain ⟨pre, build, rfl, hpre, hbuild⟩ := h
  intro c hc
  rcases List.mem_append.mp hc with hc | hc
  · cases hpre with
    | release => cases hc
    | identifiers _ hids =>
        rcases List.mem_cons.mp hc with rfl | hc
        · exact .inr (.inr (.inl rfl))
        · exact .of_isIdentifierChar
            (isIdentifierChar_of_mem (isIdentifierText_of_forall₂ hids) c hc)
  · cases hbuild with
    | none => cases hc
    | identifiers _ htexts =>
        rcases List.mem_cons.mp hc with rfl | hc
        · exact .inr (.inr (.inr rfl))
        · exact .of_isIdentifierChar (isIdentifierChar_of_mem htexts c hc)

theorem Writes.isVersionChar (h : Writes cs v) : ∀ c ∈ cs, IsVersionChar c := by
  obtain ⟨-, -, -, hsuffix⟩ := h
  intro c hc
  rcases List.mem_append.mp hc with hc | hc
  · rcases Text.mem_intercalate hc with rfl | ⟨piece, hpiece, hc⟩
    · exact .inr (.inl rfl)
    · obtain ⟨n, -, rfl⟩ := List.mem_map.mp hpiece
      refine .inl ?_
      rw [Char.isAlphanum, Decimal.isDigit_of_mem_digits hc, Bool.or_true]
  · exact hsuffix.isVersionChar c hc

theorem Writes.head? (h : Writes cs v) : ∃ c, cs.head? = some c ∧ c.isDigit = true := by
  obtain ⟨hne, -, -, -⟩ := h
  next ns suffix ids =>
  obtain ⟨n, ns, rfl⟩ := List.exists_cons_of_ne_nil hne
  obtain ⟨c, cs, hdigits⟩ := List.exists_cons_of_ne_nil (Decimal.digits_ne_nil n)
  refine ⟨c, ?_, Decimal.isDigit_of_mem_digits (hdigits ▸ List.mem_cons_self)⟩
  rw [numbersText, List.map_cons, hdigits, List.intercalate_cons_cons_left]
  rfl

/-- Rows of digits in front of a version are its numbers. -/
theorem Writes.pieces {pieces : List (List Char)} {rest : List Char}
    (h : Writes (['.'].intercalate pieces ++ rest) v) (hne : pieces ≠ [])
    (hpieces : ∀ piece ∈ pieces, ∀ c ∈ piece, c.isDigit = true)
    (hrest : Text.Stops isNumberChar rest) : [] ∉ pieces ∧ pieces.length ≤ 3 := by
  generalize hcs : ['.'].intercalate pieces ++ rest = cs at h
  obtain ⟨hns, hlen, -, hsuffix⟩ := h
  obtain ⟨rfl, -⟩ := (isNumberPieces_of_isDigit hpieces).unique (isNumberPieces_map_digits _) hne
    (map_digits_ne_nil hns) hrest hsuffix.stopsNumbers hcs
  refine ⟨fun hnil => ?_, by simpa using hlen⟩
  obtain ⟨n, -, hn⟩ := List.mem_map.mp hnil
  exact Decimal.digits_ne_nil n hn

/-- **The texts of versions.** A text is read as a version exactly if it is one to three numbers of
64 bits without leading zeros and with points between them, and an optional pre-release and build
behind them; missing numbers are zero and the build is dropped. So zeros behind the first number may
be left out. Nothing is read from a text with an empty piece or a fourth one in front, with any
other character, or without a digit in front. -/
theorem ofPadded?_grammar (text : String) :
    (∀ v, ofPadded? text = some v ↔ Writes text.toList v) ∧
    (∀ n suffix ids, n < UInt64.size → WritesSuffix suffix ids → ∀ zeros ∈ [[], [0], [0, 0]],
      text.toList = numbersText (n :: zeros) ++ suffix → ofPadded? text = some ⟨n, 0, 0, ids⟩) ∧
    (∀ pieces rest, text.toList = ['.'].intercalate pieces ++ rest →
      (∀ piece ∈ pieces, ∀ c ∈ piece, c.isDigit = true) →
      (∀ c ∈ rest.head?, c.isDigit = false ∧ c ≠ '.') →
        [] ∈ pieces ∨ 3 < pieces.length → ofPadded? text = none) ∧
    ((∃ c ∈ text.toList, ¬ IsVersionChar c) ∨ (∀ c ∈ text.toList.head?, c.isDigit = false) →
      ofPadded? text = none) := by
  have hnone (h : ∀ v, ¬ Writes text.toList v) : ofPadded? text = none :=
    Option.eq_none_iff_forall_ne_some.mpr fun v hv => h v (ofPadded?_iff_writes.mp hv)
  refine ⟨fun v => ofPadded?_iff_writes, ?_, ?_, ?_⟩
  · intro n suffix ids hn hsuffix zeros hzeros htext
    have hzero : 0 < UInt64.size := by decide
    have hzeros : zeros.length ≤ 2 ∧ (∀ n ∈ zeros, n < UInt64.size) ∧
        ofNumbers (n :: zeros) ids = ⟨n, 0, 0, ids⟩ := by
      simp only [List.mem_cons, List.not_mem_nil, or_false] at hzeros
      rcases hzeros with rfl | rfl | rfl <;> simp [hzero, ofNumbers]
    obtain ⟨hlen, hsizes, hversion⟩ := hzeros
    rw [ofPadded?_iff_writes, htext, ← hversion]
    exact .mk (List.cons_ne_nil n zeros) (Nat.succ_le_succ hlen)
      (List.forall_mem_cons.mpr ⟨hn, hsizes⟩) hsuffix
  · intro pieces rest htext hpieces hrest hbad
    refine hnone fun v hv => ?_
    rw [htext] at hv
    have hne : pieces ≠ [] := by
      rintro rfl
      simp at hbad
    have hstops : Text.Stops isNumberChar rest := by
      intro c hc
      obtain ⟨hdigit, hpoint⟩ := hrest c hc
      simp [isNumberChar, Digit.isDecimal_eq, hdigit, hpoint]
    obtain ⟨hnil, hlen⟩ := hv.pieces hne hpieces hstops
    rcases hbad with hbad | hbad
    · exact hnil hbad
    · omega
  · intro hbad
    refine hnone fun v hv => ?_
    rcases hbad with ⟨c, hc, hbad⟩ | hhead
    · exact hbad (hv.isVersionChar c hc)
    · obtain ⟨c, hc, hdigit⟩ := hv.head?
      rw [hhead c hc] at hdigit
      cases hdigit

/-- The text of a release candidate with one number, and of a version with four. -/
theorem ofPadded?_grammar_short :
    ofPadded? "2-rc.1+b7" = some ⟨2, 0, 0, [.word "rc", .numeric 1]⟩ ∧
      ofPadded? "2.0.0.1" = none ∧ ofPadded? "v2" = none := by
  have hids : List.Forall₂ WritesIdentifier [['r', 'c'], ['1']] [.word "rc", .numeric 1] :=
    .cons (.word (by decide) ⟨'r', by decide⟩) (.cons (.numeric 1) .nil)
  have hbuild : IsBuildText ['+', 'b', '7'] :=
    .identifiers (List.cons_ne_nil ['b', '7'] []) (List.forall_mem_singleton.mpr (by decide))
  have hsuffix : WritesSuffix ['-', 'r', 'c', '.', '1', '+', 'b', '7'] [.word "rc", .numeric 1] :=
    ⟨_, _, rfl, .identifiers (List.cons_ne_nil _ _) hids, hbuild⟩
  refine ⟨?_, ?_, ?_⟩
  · exact (ofPadded?_grammar "2-rc.1+b7").2.1 2 _ _ (by decide) hsuffix [] (by decide) (by decide)
  · exact (ofPadded?_grammar "2.0.0.1").2.2.1 [['2'], ['0'], ['0'], ['1']] [] (by decide)
      (by simp) nofun (.inr (by decide))
  · exact (ofPadded?_grammar "v2").2.2.2 (.inr fun c hc => Option.some.inj hc ▸ rfl)

end Version
end FeatureFlags
