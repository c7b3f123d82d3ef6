import Mathlib.Data.List.Lex
import Mathlib.Data.Prod.Lex
import Mathlib.Data.String.Basic
import Mathlib.Data.Sum.Order
import Mathlib.Order.Compare
import Mathlib.Order.WithBot
import FeatureFlags.Version

/-! # Precedence

Versions are compared by a linear order (`compare_compares`): number by number, then by their
pre-releases, identifier by identifier. A release is above its pre-releases, a number is below every
word, and of two lists of identifiers that start alike the shorter is below.

The order is built from known ones. Identifiers are a sum of numbers and words, lists of them are in
lexicographic order, and a release, which has no identifiers, stands at the top (`stage`). What is
compared of a version, the foremost first, is a product of these (`precedence`). -/

namespace FeatureFlags

/-! ## Comparison in lexicographic orders

Two results are combined by `Ordering.then`: the second counts where the first is equality. -/

section

variable {α β : Type} [LinearOrder α] [LinearOrder β] {o o' : Ordering}

theorem compares_compare (a b : α) : (Ord.compare a b).Compares a b := (compare_iff a b).mp rfl

theorem compares_toLex {a a' : α} {b b' : β} (h : o.Compares a a') (h' : o'.Compares b b') :
    (o.then o').Compares (toLex (a, b)) (toLex (a', b')) := by
  cases o with
  | lt => exact Prod.Lex.toLex_lt_toLex.mpr (.inl h)
  | gt => exact Prod.Lex.toLex_lt_toLex.mpr (.inl h)
  | eq =>
      obtain rfl : a = a' := h
      have hmono : StrictMono fun b : β => toLex (a, b) := fun b b' h =>
        Prod.Lex.toLex_lt_toLex.mpr (.inr ⟨rfl, h⟩)
      exact hmono.compares.mpr h'

theorem compares_cons {a b : α} {as bs : List α} (h : o.Compares a b) (h' : o'.Compares as bs) :
    (o.then o').Compares (a :: as) (b :: bs) := by
  cases o with
  | lt => exact List.cons_lt_cons_iff.mpr (.inl h)
  | gt => exact List.cons_lt_cons_iff.mpr (.inl h)
  | eq =>
      obtain rfl : a = b := h
      have hmono : StrictMono fun as : List α => a :: as := fun as bs h =>
        List.cons_lt_cons_iff.mpr (.inr ⟨rfl, h⟩)
      exact hmono.compares.mpr h'

end

/-! ## Identifiers

Words are compared as text, and numbers by size, whatever the number of their digits. -/

namespace Identifier

def key : Identifier → Nat ⊕ₗ String
  | numeric n => toLex (.inl n)
  | word s => toLex (.inr s)

theorem key_injective : Function.Injective key := by
  rintro (m | s) (n | t) h <;> cases h <;> rfl

instance : LinearOrder Identifier := LinearOrder.lift' key key_injective

theorem compares_key {a b : Identifier} {o : Ordering} (h : o.Compares a.key b.key) :
    o.Compares a b := by
  cases o with
  | lt => exact h
  | eq => exact key_injective h
  | gt => exact h

theorem compares (a b : Identifier) : (a.compare b).Compares a b := by
  apply compares_key
  cases a with
  | numeric m =>
      cases b with
      | numeric n => exact Sum.Lex.inl_strictMono.compares.mpr (compares_compare m n)
      | word t => exact Sum.Lex.inl_lt_inr m t
  | word s =>
      cases b with
      | numeric n => exact Sum.Lex.inl_lt_inr n s
      | word t => exact Sum.Lex.inr_strictMono.compares.mpr (compares_compare s t)

end Identifier

namespace Version

/-! ## Versions

The empty list of identifiers is the least in lexicographic order, and has to become the
greatest. -/

theorem compareIdentifiers_compares (as bs : List Identifier) :
    (compareIdentifiers as bs).Compares as bs := by
  induction as generalizing bs with
  | nil =>
      cases bs with
      | nil => rfl
      | cons b bs => exact List.nil_lt_cons b bs
  | cons a as ih =>
      cases bs with
      | nil => exact List.nil_lt_cons a as
      | cons b bs => exact compares_cons (a.compares b) (ih bs)

/-- The place of a pre-release among all; a release is above them. -/
def stage : List Identifier → WithTop (List Identifier)
  | [] => ⊤
  | ids => ids

theorem stage_injective : Function.Injective stage := by
  rintro (_ | ⟨a, as⟩) (_ | ⟨b, bs⟩) h
  · rfl
  · cases h
  · cases h
  · exact WithTop.coe_injective h

theorem comparePreReleases_compares (as bs : List Identifier) :
    (comparePreReleases as bs).Compares (stage as) (stage bs) := by
  match as, bs with
  | [], [] => rfl
  | [], b :: bs => exact WithTop.coe_lt_top (b :: bs)
  | a :: as, [] => exact WithTop.coe_lt_top (a :: as)
  | a :: as, b :: bs => exact WithTop.coe_strictMono.compares.mpr (compareIdentifiers_compares _ _)

def precedence (v : Version) : Nat ×ₗ Nat ×ₗ Nat ×ₗ WithTop (List Identifier) :=
  toLex (v.major, toLex (v.minor, toLex (v.patch, stage v.preRelease)))

theorem precedence_injective : Function.Injective precedence := by
  rintro ⟨a, b, c, ids⟩ ⟨a', b', c', ids'⟩ h
  simp only [precedence, toLex_inj, Prod.mk.injEq, stage_injective.eq_iff] at h
  obtain ⟨rfl, rfl, rfl, rfl⟩ := h
  rfl

/-- Comparing versions compares what decides precedence. -/
theorem compare_compares (v w : Version) : (v.compare w).Compares v.precedence w.precedence :=
  compares_toLex (compares_compare v.major w.major) <|
    compares_toLex (compares_compare v.minor w.minor) <|
      compares_toLex (compares_compare v.patch w.patch)
        (comparePreReleases_compares v.preRelease w.preRelease)

example :
    compare ⟨2, 0, 0, [.word "rc", .numeric 2]⟩ ⟨2, 0, 0, [.word "rc", .numeric 10]⟩ = .lt := by
  decide

end Version
end FeatureFlags
