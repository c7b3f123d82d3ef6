import FeatureFlags.Operator
import FeatureFlags.Proofs.Version.Order
import FeatureFlags.Proofs.Version.Reading

/-! # Versions compared

The three operators on versions are one total order of the texts that can be read as versions
(`semVer_isTotalOrder`). Two texts of one version, such as `2.1` and `2.1.0+linux`, count as equal.

An operator holds between two texts (`HoldsOf`) if both can be read and what is read stands in a
relation. What is read is the place of the version among all of them (`precedence?`), in a linear
order, and any items are ordered in this way if something linearly ordered is read from them
(`isTotalOrderOn_between`). -/

namespace FeatureFlags

/-! ## Items compared by what is read from them

Equality is not that of the items: different items from which the same is read count as equal, so it
has to be said that the order cannot tell them apart. -/

section

variable {α κ : Type} {read : α → Option κ} {r s t : κ → κ → Prop} {a b c : α} {k l : κ}

/-- Three relations that hold between valid items only and order those, up to what counts as
equal. -/
structure IsTotalOrderOn (valid : α → Prop) (eq lt gt : α → α → Prop) : Prop where
  valid_of_holds : ∀ a b, eq a b ∨ lt a b ∨ gt a b → valid a ∧ valid b
  exactly_one : ∀ a b, valid a → valid b →
    (eq a b ∧ ¬ lt a b ∧ ¬ gt a b) ∨ (¬ eq a b ∧ lt a b ∧ ¬ gt a b) ∨
      (¬ eq a b ∧ ¬ lt a b ∧ gt a b)
  gt_iff : ∀ a b, gt a b ↔ lt b a
  eq_refl : ∀ a, valid a → eq a a
  eq_symm : ∀ a b, eq a b → eq b a
  eq_trans : ∀ a b c, eq a b → eq b c → eq a c
  lt_trans : ∀ a b c, lt a b → lt b c → lt a c
  lt_congr_left : ∀ a b c, eq a b → (lt a c ↔ lt b c)
  lt_congr_right : ∀ a b c, eq a b → (lt c a ↔ lt c b)

def Between (read : α → Option κ) (r : κ → κ → Prop) (a b : α) : Prop :=
  ∃ k ∈ read a, ∃ l ∈ read b, r k l

theorem between_iff (hk : k ∈ read a) (hl : l ∈ read b) : Between read r a b ↔ r k l := by
  refine ⟨fun ⟨k', hk', l', hl', h⟩ => ?_, fun h => ⟨k, hk, l, hl, h⟩⟩
  rwa [Option.mem_unique hk hk', Option.mem_unique hl hl']

theorem Between.isRead (h : Between read r a b) : (∃ k, k ∈ read a) ∧ ∃ l, l ∈ read b := by
  obtain ⟨k, hk, l, hl, -⟩ := h
  exact ⟨⟨k, hk⟩, l, hl⟩

theorem Between.flip (hrs : ∀ k l, r k l → s l k) (h : Between read r a b) :
    Between read s b a := by
  obtain ⟨k, hk, l, hl, h⟩ := h
  exact ⟨l, hl, k, hk, hrs k l h⟩

theorem Between.comp (hrst : ∀ k l m, r k l → s l m → t k m) (hab : Between read r a b)
    (hbc : Between read s b c) : Between read t a c := by
  obtain ⟨k, hk, l, hl, hkl⟩ := hab
  obtain ⟨l', hl', m, hm, hlm⟩ := hbc
  obtain rfl := Option.mem_unique hl hl'
  exact ⟨k, hk, m, hm, hrst k l m hkl hlm⟩

/-- Items are totally ordered by what is read from them, if that is linearly ordered. -/
theorem isTotalOrderOn_between [LinearOrder κ] (read : α → Option κ) :
    IsTotalOrderOn (fun a => ∃ k, k ∈ read a)
      (Between read (· = ·)) (Between read (· < ·)) (Between read (· > ·)) := by
  have hsymm {a b : α} : Between read (· = ·) a b → Between read (· = ·) b a :=
    Between.flip fun k l h => h.symm
  constructor
  case valid_of_holds =>
    rintro a b (h | h | h)
    all_goals exact h.isRead
  case exactly_one =>
    rintro a b ⟨k, hk⟩ ⟨l, hl⟩
    simp only [between_iff hk hl]
    rcases lt_trichotomy k l with h | rfl | h
    · exact .inr (.inl ⟨h.ne, h, h.not_gt⟩)
    · exact .inl ⟨rfl, lt_irrefl k, lt_irrefl k⟩
    · exact .inr (.inr ⟨h.ne', h.not_gt, h⟩)
  case gt_iff => exact fun a b => ⟨Between.flip fun k l h => h, Between.flip fun k l h => h⟩
  case eq_refl => exact fun a ⟨k, hk⟩ => ⟨k, hk, k, hk, rfl⟩
  case eq_symm => exact fun a b => hsymm
  case eq_trans => exact fun a b c => Between.comp fun k l m => Eq.trans
  case lt_trans => exact fun a b c => Between.comp fun k l m => lt_trans
  case lt_congr_left =>
    have hcomp {a b c : α} : Between read (· = ·) a b → Between read (· < ·) b c →
        Between read (· < ·) a c := Between.comp fun k l m => lt_of_eq_of_lt
    exact fun a b c h => ⟨hcomp (hsymm h), hcomp h⟩
  case lt_congr_right =>
    have hcomp {a b c : α} : Between read (· < ·) a b → Between read (· = ·) b c →
        Between read (· < ·) a c := Between.comp fun k l m => lt_of_lt_of_eq
    exact fun a b c h => ⟨fun hca => hcomp hca h, fun hcb => hcomp hcb (hsymm h)⟩

end

namespace Operator

open Version (IsBuildText ofPadded? precedence)

/-! ## The operators

Each operator asks for one result of comparing two versions. -/

/-- The operator holds between two texts. -/
def HoldsOf (op : Operator) (s t : String) : Prop := op.apply (.string s) (.string t) = true

instance (op : Operator) (s t : String) : Decidable (op.HoldsOf s t) :=
  inferInstanceAs (Decidable (_ = true))

def precedence? (s : String) : Option (Nat ×ₗ Nat ×ₗ Nat ×ₗ WithTop (List Identifier)) :=
  (ofPadded? s).map precedence

theorem onVersions_iff {result : Ordering} {s t : String} :
    onVersions result s t = true ↔ Between precedence? result.Compares s t := by
  unfold onVersions Between precedence?
  cases ofPadded? s with
  | none => simp
  | some v =>
      cases ofPadded? t with
      | none => simp
      | some w =>
          have h := Version.compare_compares v w
          simp only [Option.map_some, Option.mem_def, Option.some.injEq, exists_eq_left',
            beq_iff_eq]
          exact ⟨fun hr => hr ▸ h, fun hr => h.inj hr⟩

theorem semVerEqual_holdsOf : semVerEqual.HoldsOf = Between precedence? (· = ·) := by
  ext s t
  exact onVersions_iff

theorem semVerLessThan_holdsOf : semVerLessThan.HoldsOf = Between precedence? (· < ·) := by
  ext s t
  exact onVersions_iff

theorem semVerGreaterThan_holdsOf : semVerGreaterThan.HoldsOf = Between precedence? (· > ·) := by
  ext s t
  exact onVersions_iff

theorem mem_precedence?_iff {s : String} {k : Nat ×ₗ Nat ×ₗ Nat ×ₗ WithTop (List Identifier)} :
    k ∈ precedence? s ↔ ∃ v, ofPadded? s = some v ∧ v.precedence = k :=
  Option.map_eq_some_iff

theorem exists_mem_precedence?_iff {s : String} :
    (∃ k, k ∈ precedence? s) ↔ ∃ v, ofPadded? s = some v := by
  constructor
  · rintro ⟨k, hk⟩
    obtain ⟨v, hv, -⟩ := mem_precedence?_iff.mp hk
    exact ⟨v, hv⟩
  · rintro ⟨v, hv⟩
    exact ⟨v.precedence, mem_precedence?_iff.mpr ⟨v, hv, rfl⟩⟩

/-- **The order of versions.** Between texts that can be read as versions, the operators are the
strict order and the equality of a total order, which is that of precedence; none of them holds of
any other text. What build a text ends with makes no difference. -/
theorem semVer_isTotalOrder :
    IsTotalOrderOn (fun s => ∃ v, ofPadded? s = some v)
      semVerEqual.HoldsOf semVerLessThan.HoldsOf semVerGreaterThan.HoldsOf ∧
    (∀ s t v w, ofPadded? s = some v → ofPadded? t = some w →
      (semVerEqual.HoldsOf s t ↔ v = w) ∧
      (semVerLessThan.HoldsOf s t ↔ v.precedence < w.precedence)) ∧
    (∀ s t build, t.toList = s.toList ++ build → '+' ∉ s.toList → IsBuildText build →
      ∀ op ∈ [semVerEqual, semVerLessThan, semVerGreaterThan], ∀ u,
        (op.HoldsOf t u ↔ op.HoldsOf s u) ∧ (op.HoldsOf u t ↔ op.HoldsOf u s)) := by
  refine ⟨?_, ?_, ?_⟩
  · have horder := isTotalOrderOn_between precedence?
    simp only [exists_mem_precedence?_iff] at horder
    rwa [semVerEqual_holdsOf, semVerLessThan_holdsOf, semVerGreaterThan_holdsOf]
  · intro s t v w hs ht
    have hv : v.precedence ∈ precedence? s := mem_precedence?_iff.mpr ⟨v, hs, rfl⟩
    have hw : w.precedence ∈ precedence? t := mem_precedence?_iff.mpr ⟨w, ht, rfl⟩
    rw [semVerEqual_holdsOf, semVerLessThan_holdsOf, between_iff hv hw, between_iff hv hw]
    exact ⟨Version.precedence_injective.eq_iff, Iff.rfl⟩
  · intro s t build ht hs hbuild op hop u
    have hread : precedence? t = precedence? s := by
      rw [precedence?, Version.ofPadded?_append_build hs hbuild ht, precedence?]
    simp only [List.mem_cons, List.not_mem_nil, or_false] at hop
    rcases hop with rfl | rfl | rfl
    · simp only [semVerEqual_holdsOf, Between, hread, and_self]
    · simp only [semVerLessThan_holdsOf, Between, hread, and_self]
    · simp only [semVerGreaterThan_holdsOf, Between, hread, and_self]

/-- A release candidate is below its release and the next minor version, with whatever build. -/
theorem semVer_isTotalOrder_candidate :
    semVerLessThan.HoldsOf "2.0.0-rc.1" "2.1+b7" ∧ semVerGreaterThan.HoldsOf "2.1+b7" "2.0.0-rc.1" ∧
      ¬ semVerEqual.HoldsOf "2.0.0-rc.1" "v2" := by
  obtain ⟨horder, hprecedence, hbuilds⟩ := semVer_isTotalOrder
  have hbuild : IsBuildText ['+', 'b', '7'] :=
    .identifiers (List.cons_ne_nil ['b', '7'] []) (List.forall_mem_singleton.mpr (by decide))
  have hrelease : semVerLessThan.HoldsOf "2.0.0-rc.1" "2" := by decide
  have hnext : semVerLessThan.HoldsOf "2" "2.1" := by decide
  have hless : semVerLessThan.HoldsOf "2.0.0-rc.1" "2.1+b7" :=
    (hbuilds "2.1" "2.1+b7" _ (by decide) (by decide) hbuild _ (by decide) _).2.mpr
      (horder.lt_trans _ _ _ hrelease hnext)
  refine ⟨hless, (horder.gt_iff _ _).mpr hless, fun heq => ?_⟩
  obtain ⟨v, hv⟩ := (horder.valid_of_holds _ _ (.inl heq)).2
  have hnone : ofPadded? "v2" = none := by decide
  rw [hnone] at hv
  cases hv

end Operator
end FeatureFlags
