import FeatureFlags.Proofs.Attribute.Exclusion

/-! # Exactly what is addressed is left out

The names that a list of references leads to (`addressed`) tell what its copy of a value is.

* **What is there** (`isSome_descend_copy`) — names lead to something in the copy if they lead to
  something in the value, and neither they nor names above them are addressed (`IsKept`).
* **What it is** (`exists_descend_copy`) — an object keeps its other members in their order, and
  anything else is as it was (`LeftUnder`).
* **What is reported** (`text_mem_excluded`) — the references that lead to something and have no
  other one above them, in order and without repetition.

That a value names no member twice counts for the report alone: leaving out goes through all
members, and reading finds the first one of a name. -/

namespace FeatureFlags
namespace Exclusion

variable {paths : List Pending} {refs : List Reference} {name : String} {names : List String}
  {r : Reference} {v w : Json}

/-! ## What is addressed

Invalid references are passed over, and so are those without names. The paths that a copy starts
from are those of the others, so that a path ends at some names if these are addressed. -/

/-- The names that the references lead to, of those references that are valid and lead anywhere. -/
def addressed (refs : List Reference) : List (List String) :=
  (refs.filter fun r => r.isValid ∧ r.components ≠ []).map Reference.components

/-- Neither the names nor names above them are addressed. -/
def IsKept (refs : List Reference) (names : List String) : Prop :=
  ∀ path ∈ addressed refs, ¬ path <+: names

instance (refs : List Reference) (names : List String) : Decidable (IsKept refs names) :=
  inferInstanceAs (Decidable (∀ path ∈ addressed refs, ¬ path <+: names))

theorem mem_addressed :
    names ∈ addressed refs
      ↔ ∃ r ∈ refs, r.isValid = true ∧ r.components ≠ [] ∧ r.components = names := by
  simp [addressed, and_assoc]

theorem mem_pathsOf {p : Pending} (hne : p.names ≠ []) :
    p ∈ pathsOf refs
      ↔ p.reference ∈ refs ∧ p.reference.isValid = true ∧ p.names = p.reference.components := by
  obtain ⟨reference, pathNames⟩ := p
  simp only [pathsOf, List.mem_map, List.mem_filter, Pending.mk.injEq]
  constructor
  · rintro ⟨r, ⟨hr, hvalid⟩, rfl, rfl⟩
    exact ⟨hr, (Bool.and_eq_true_iff.mp hvalid).1, rfl⟩
  · rintro ⟨hr, hvalid, rfl⟩
    exact ⟨reference, ⟨hr, by simpa [hvalid] using hne⟩, rfl, rfl⟩

theorem removes_iff_addressed :
    Removes (pathsOf refs) names ↔ ∃ path ∈ addressed refs, path <+: names := by
  rw [removes_pathsOf]
  constructor
  · rintro ⟨r, hr, hvalid, hne, hbegins⟩
    exact ⟨r.components, mem_addressed.mpr ⟨r, hr, hvalid, hne, rfl⟩, hbegins⟩
  · rintro ⟨path, hpath, hbegins⟩
    obtain ⟨r, hr, hvalid, hne, rfl⟩ := mem_addressed.mp hpath
    exact ⟨r, hr, hvalid, hne, hbegins⟩

theorem not_removes_iff_isKept : ¬ Removes (pathsOf refs) names ↔ IsKept refs names := by
  rw [removes_iff_addressed]
  simp [IsKept]

/-! ## The copy

What holds of a copy for paths under way is read off for the paths of all references. -/

/-- Names lead to something in the copy if they are kept and lead to something in the value. -/
theorem isSome_descend_copy :
    (Reference.descend (copy v refs) names).isSome = true
      ↔ (Reference.descend v names).isSome = true ∧ IsKept refs names := by
  rw [← not_removes_iff_isKept]
  by_cases h : Removes (pathsOf refs) names
  · rw [copy, descend_prune_of_removes h]
    simp [h]
  · rw [copy, descend_prune h, Option.isSome_map]
    simp [h]

theorem endingAt_pathsOf_nonempty_iff :
    (endingAt name (pathsOf refs)).isEmpty = false ↔ [name] ∈ addressed refs := by
  rw [endingAt_nonempty_iff, mem_addressed]
  constructor
  · rintro ⟨p, hp, hnames⟩
    have hne : p.names ≠ [] := hnames ▸ List.cons_ne_nil name []
    obtain ⟨hmem, hvalid, hcomponents⟩ := (mem_pathsOf hne).mp hp
    exact ⟨p.reference, hmem, hvalid, hcomponents ▸ hne, hcomponents ▸ hnames⟩
  · rintro ⟨r, hr, hvalid, hne, hnames⟩
    exact ⟨⟨r, r.components⟩, (mem_pathsOf hne).mpr ⟨hr, hvalid, rfl⟩, hnames⟩

/-- A member that was there is missing from the copy if it is addressed itself. -/
theorem member?_copy_eq_none_iff (h : (v.member? name).isSome = true) :
    (copy v refs).member? name = none ↔ [name] ∈ addressed refs := by
  rw [copy, member?_prune, ← endingAt_pathsOf_nonempty_iff]
  cases hends : (endingAt name (pathsOf refs)).isEmpty with
  | true =>
      rw [if_pos rfl, Option.map_eq_none_iff, ← Option.not_isSome_iff_eq_none]
      exact iff_of_false (fun hnone => hnone h) Bool.noConfusion
  | false => exact iff_of_true rfl rfl

/-- A member with whose name no reference begins is the same in the copy. -/
theorem member?_copy_of_head? (h : ∀ path ∈ addressed refs, path.head? ≠ some name) :
    (copy v refs).member? name = v.member? name := by
  refine member?_prune_of_head? (fun p hp => ?_) v
  by_cases hne : p.names = []
  · rw [hne]
    exact nofun
  · obtain ⟨hmem, hvalid, hcomponents⟩ := (mem_pathsOf hne).mp hp
    exact h p.names (mem_addressed.mpr ⟨p.reference, hmem, hvalid, hcomponents ▸ hne,
      hcomponents.symm⟩)

/-- What is left of a value that stands under some names: of an object the members that are kept, in
their order, and of any other value all of it. -/
inductive LeftUnder (refs : List Reference) (names : List String) : Json → Json → Prop where
  | object {members members' : Entries Json}
      (h : members'.names = members.names.filter fun name => IsKept refs (names ++ [name])) :
      LeftUnder refs names (.object members) (.object members')
  | other {v : Json} (h : v.members? = none) : LeftUnder refs names v v

theorem names_pruneMembers (members : Entries Json) :
    Entries.names (pruneMembers paths members)
      = (Entries.names members).filter fun name => (endingAt name paths).isEmpty := by
  rw [pruneMembers_eq, Entries.names, Entries.names, List.map_map, List.filter_map]
  rfl

/-- Below names that are kept, a member is kept if no path ends at it. -/
theorem isEmpty_endingAt_belowAll (h : ¬ Removes paths names) :
    (endingAt name (belowAll names paths)).isEmpty = true ↔ ¬ Removes paths (names ++ [name]) := by
  rw [isEmpty_endingAt_iff, removes_append, or_iff_right h]

theorem prune_leftUnder (h : ¬ Removes (pathsOf refs) names) :
    LeftUnder refs names w (prune (belowAll names (pathsOf refs)) w) := by
  cases w with
  | object members =>
      rw [prune]
      refine .object ?_
      rw [names_pruneMembers]
      refine List.filter_congr fun name _ => ?_
      rw [Bool.eq_iff_iff, isEmpty_endingAt_belowAll h, not_removes_iff_isKept, decide_eq_true_iff]
  | null | bool | number | string | array =>
      rw [prune_of_members?_eq_none rfl]
      exact .other rfl

/-- What stands under names that are kept is copied but for what is left out below it. -/
theorem exists_descend_copy (h : IsKept refs names) (hw : Reference.descend v names = some w) :
    ∃ w', Reference.descend (copy v refs) names = some w' ∧ LeftUnder refs names w w' := by
  have hnot : ¬ Removes (pathsOf refs) names := not_removes_iff_isKept.mpr h
  refine ⟨_, ?_, prune_leftUnder hnot⟩
  rw [copy, descend_prune hnot, hw, Option.map_some]

/-! ## The references that take something away

A reference takes something away if its names lead to something and no path ends above them, since
the walk does not go below a member that is left out (`TakesAway`). Walking finds each of them in
the place where it ends (`mem_hits`), by induction on the value. -/

theorem mem_endingAt :
    r ∈ endingAt name paths ↔ ∃ p ∈ paths, p.names = [name] ∧ p.reference = r := by
  simp [endingAt, and_assoc]

/-- One level down, a reference takes a member away, or something below a member that is kept. -/
theorem mem_hits_object {members : Entries Json} :
    r ∈ hits paths (.object members) ↔ ∃ m ∈ members, r ∈ endingAt m.1 paths ∨
      (endingAt m.1 paths).isEmpty = true ∧ r ∈ hits (below m.1 paths) m.2 := by
  rw [hits, hitsMembers_eq, List.mem_flatMap]
  refine exists_congr fun m => and_congr_right fun _ => ?_
  cases hends : (endingAt m.1 paths).isEmpty with
  | true => simp [List.isEmpty_iff.mp hends]
  | false => simp

def TakesAway (paths : List Pending) (r : Reference) (v : Json) : Prop :=
  ∃ p ∈ paths, p.reference = r ∧ p.names ≠ [] ∧
    (Reference.descend v p.names).isSome = true ∧ ¬ Removes paths p.names.dropLast

theorem not_takesAway (h : v.members? = none) : ¬ TakesAway paths r v := by
  rintro ⟨p, -, -, hne, hfound, -⟩
  obtain ⟨first, rest, hnames⟩ := List.exists_cons_of_ne_nil hne
  rw [hnames, Reference.descend] at hfound
  cases v with
  | object members => cases h
  | null | bool | number | string | array => cases hfound

/-- A member is taken away by what ends at it, and something below it only if it is kept. -/
theorem takesAway_of_member? (hw : v.member? name = some w) (h : r ∈ endingAt name paths ∨
      (endingAt name paths).isEmpty = true ∧ TakesAway (below name paths) r w) :
    TakesAway paths r v := by
  rcases h with hr | ⟨hends, q, hq, rfl, hne, hfound, hnot⟩
  · obtain ⟨p, hp, hnames, rfl⟩ := mem_endingAt.mp hr
    refine ⟨p, hp, rfl, ?_, ?_, ?_⟩
    all_goals rw [hnames]
    · exact List.cons_ne_nil name []
    · rw [Reference.descend_singleton, hw]
      rfl
    · exact not_removes_nil
  -- The path below the member comes from one that begins with its name.
  · obtain ⟨-, hp⟩ := mem_below.mp hq
    refine ⟨_, hp, rfl, List.cons_ne_nil name q.names, ?_, ?_⟩
    · rw [Reference.descend, hw]
      exact hfound
    · rw [List.dropLast_cons_of_ne_nil hne, removes_cons, hends]
      exact not_or.mpr ⟨Bool.noConfusion, hnot⟩

theorem TakesAway.exists_member? (h : TakesAway paths r v) :
    ∃ name w, v.member? name = some w ∧ (r ∈ endingAt name paths ∨
      (endingAt name paths).isEmpty = true ∧ TakesAway (below name paths) r w) := by
  obtain ⟨⟨s, pathNames⟩, hp, rfl, hne, hfound, hnot⟩ := h
  obtain ⟨name, rest, rfl⟩ := List.exists_cons_of_ne_nil hne
  rw [Reference.descend] at hfound
  cases hw : v.member? name with
  | none =>
      rw [hw] at hfound
      cases hfound
  | some w =>
      rw [hw] at hfound
      refine ⟨name, w, hw, ?_⟩
      -- The path ends at the member, or it goes on below it.
      cases rest with
      | nil =>
          left
          exact mem_endingAt.mpr ⟨_, hp, rfl, rfl⟩
      | cons second rest =>
          rw [List.dropLast_cons_of_ne_nil (List.cons_ne_nil second rest), removes_cons, not_or,
            Bool.not_eq_false] at hnot
          right
          exact ⟨hnot.1, ⟨s, second :: rest⟩, mem_below.mpr ⟨List.cons_ne_nil second rest, hp⟩, rfl,
            List.cons_ne_nil second rest, hfound, hnot.2⟩

/-- The references that take something away are those that lead to something on a free way. -/
theorem mem_hits (hv : v.Distinct) : r ∈ hits paths v ↔ TakesAway paths r v := by
  induction v using Json.members_induction generalizing paths with
  | other v hnone =>
      rw [hits_of_members?_eq_none hnone]
      exact iff_of_false List.not_mem_nil (not_takesAway hnone)
  | object members ih =>
      have ihMember : ∀ m ∈ members, ∀ {paths}, r ∈ hits paths m.2 ↔ TakesAway paths r m.2 := by
        intro m hm
        exact ih m hm (hv.of_member? (Entries.find?_of_mem hv.nodup_names hm))
      rw [mem_hits_object]
      constructor
      -- A member is the one that is found under its name, as there is no other one.
      · rintro ⟨m, hm, hr⟩
        rw [ihMember m hm] at hr
        exact takesAway_of_member? (Entries.find?_of_mem hv.nodup_names hm) hr
      · intro h
        obtain ⟨name, w, hw, hr⟩ := h.exists_member?
        have hm : (name, w) ∈ members := Entries.mem_of_find? hw
        rw [← ihMember _ hm] at hr
        exact ⟨(name, w), hm, hr⟩

/-! ## The report

The report holds the texts of these references, sorted, and each of them once. -/

theorem pairwise_eraseDups {texts : List String} (h : texts.Pairwise (· ≤ ·)) :
    texts.eraseDups.Pairwise (· < ·) := by
  induction hn : texts.length using Nat.strongRecOn generalizing texts with
  | _ n ih =>
    cases texts with
    | nil => exact .nil
    | cons first rest =>
        obtain ⟨hfirst, hrest⟩ := List.pairwise_cons.mp h
        rw [List.eraseDups_cons, List.pairwise_cons]
        constructor
        · intro text htext
          obtain ⟨hmem, hne⟩ := List.mem_filter.mp (List.mem_eraseDups.mp htext)
          refine Std.lt_of_le_of_ne (hfirst text hmem) ?_
          rintro rfl
          rw [beq_self_eq_true] at hne
          cases hne
        · refine ih _ ?_ (hrest.filter _) rfl
          have hlength := List.length_filter_le (fun text => !text == first) rest
          rw [← hn, List.length_cons]
          omega

/-- The texts are listed in order, and none twice. -/
theorem pairwise_sortedTexts (texts : List String) : (sortedTexts texts).Pairwise (· < ·) := by
  refine pairwise_eraseDups ?_
  have hsorted : (texts.mergeSort fun a b => decide (a ≤ b)).Pairwise
      fun a b => decide (a ≤ b) = true := by
    refine List.pairwise_mergeSort (fun a b c hab hbc => ?_) (fun a b => ?_) texts
    · exact decide_eq_true (String.le_trans (of_decide_eq_true hab) (of_decide_eq_true hbc))
    · rw [Bool.or_eq_true, decide_eq_true_iff, decide_eq_true_iff]
      exact String.le_total a b
  exact hsorted.imp of_decide_eq_true

theorem mem_sortedTexts {texts : List String} {text : String} :
    text ∈ sortedTexts texts ↔ text ∈ texts := by
  rw [sortedTexts, List.mem_eraseDups, List.mem_mergeSort]

theorem excluded_eq_nil_iff : excluded v refs = [] ↔ hits (pathsOf refs) v = [] := by
  simp [List.eq_nil_iff_forall_not_mem, excluded, mem_sortedTexts]

theorem pairwise_excluded : (excluded v refs).Pairwise (· < ·) := pairwise_sortedTexts _

/-- Nothing above the names is addressed if they begin with no other names that are. -/
theorem isKept_dropLast (hne : names ≠ []) :
    IsKept refs names.dropLast ↔ ∀ path ∈ addressed refs, path <+: names → path = names := by
  have hsplit : names.dropLast ++ [names.getLast hne] = names := List.dropLast_concat_getLast hne
  refine forall₂_congr fun path _ => ?_
  constructor
  · intro hnot hbegins
    rw [← hsplit, List.prefix_concat_iff, hsplit] at hbegins
    exact hbegins.resolve_right hnot
  · intro heq hbegins
    obtain rfl := heq (hbegins.trans (List.dropLast_prefix names))
    have hlength := hbegins.length_le
    rw [List.length_dropLast] at hlength
    have hpos := List.length_pos_iff.mpr hne
    omega

/-- Reported are the valid references that lead to something and have no other one above. -/
theorem text_mem_excluded (hv : v.Distinct) :
    r.text ∈ excluded v refs
      ↔ r ∈ refs ∧ r.isValid = true ∧ r.components ≠ [] ∧ (r.get? v).isSome = true ∧
          ∀ path ∈ addressed refs, path <+: r.components → path = r.components := by
  have hhit : r.text ∈ excluded v refs ↔ r ∈ hits (pathsOf refs) v := by
    rw [excluded, mem_sortedTexts, List.mem_map]
    constructor
    · rintro ⟨s, hs, htext⟩
      rwa [← Reference.eq_of_text_eq htext]
    · intro hr
      exact ⟨r, hr, rfl⟩
  rw [hhit, mem_hits hv]
  constructor
  · rintro ⟨p, hp, rfl, hne, hfound, hnot⟩
    obtain ⟨hmem, hvalid, hnames⟩ := (mem_pathsOf hne).mp hp
    rw [hnames] at hne hfound hnot
    rw [not_removes_iff_isKept, isKept_dropLast hne] at hnot
    rw [Reference.get?_of_ne_nil hne]
    exact ⟨hmem, hvalid, hne, hfound, hnot⟩
  · rintro ⟨hmem, hvalid, hne, hfound, hnot⟩
    rw [Reference.get?_of_ne_nil hne] at hfound
    rw [← isKept_dropLast hne, ← not_removes_iff_isKept] at hnot
    exact ⟨⟨r, r.components⟩, (mem_pathsOf hne).mpr ⟨hmem, hvalid, rfl⟩, rfl, hne, hfound, hnot⟩

/-- Nothing is reported if no reference leads to anything. -/
theorem excluded_eq_nil_iff_get? (hv : v.Distinct) :
    excluded v refs = [] ↔
      ∀ r ∈ refs, r.isValid = true → r.components ≠ [] → r.get? v = none := by
  constructor
  · intro hnil r hr hvalid hne
    have hcopy : copy v refs = v := prune_eq_self (excluded_eq_nil_iff.mp hnil)
    rw [Reference.get?_of_ne_nil hne, ← hcopy, ← Option.not_isSome_iff_eq_none,
      isSome_descend_copy]
    rintro ⟨-, hkept⟩
    exact hkept r.components (mem_addressed.mpr ⟨r, hr, hvalid, hne, rfl⟩) (List.prefix_refl _)
  · intro h
    refine List.eq_nil_iff_forall_not_mem.mpr fun text htext => ?_
    obtain ⟨hmem, hvalid, hne, hfound, -⟩ := (text_mem_excluded (r := ⟨text⟩) hv).mp htext
    rw [h ⟨text⟩ hmem hvalid hne] at hfound
    cases hfound

/-! ## Both together -/

/-- **Exactly what is addressed is left out.** Names lead to something in the copy if they lead to
something in the value and neither they nor names above them are addressed. A value that is no
object is copied as it stands, wherever it is, and an object keeps its other members in their order.
The report is in order and lists no text twice. Of a value that names no member twice, it holds the
texts of the valid references that lead to something, those below another addressed name apart. -/
theorem copy_without_addressed (v : Json) (refs : List Reference) :
    (∀ names, (Reference.descend (copy v refs) names).isSome = true
      ↔ (Reference.descend v names).isSome = true ∧ IsKept refs names) ∧
    (∀ names w, IsKept refs names → Reference.descend v names = some w →
      ∃ w', Reference.descend (copy v refs) names = some w' ∧ LeftUnder refs names w w') ∧
    (v.members? = none → copy v refs = v) ∧
    (excluded v refs).Pairwise (· < ·) ∧
    (v.Distinct → ∀ r : Reference, r.text ∈ excluded v refs
      ↔ r ∈ refs ∧ r.isValid = true ∧ r.components ≠ [] ∧ (r.get? v).isSome = true ∧
          ∀ path ∈ addressed refs, path <+: r.components → path = r.components) := by
  refine ⟨fun names => isSome_descend_copy, fun names w => exists_descend_copy, ?_, ?_, ?_⟩
  · exact prune_of_members?_eq_none
  · exact pairwise_excluded
  · intro hv r
    exact text_mem_excluded hv

/-- References to one place, below one another, through a list and to nothing. -/
theorem copy_without_addressed_nested :
    let v : Json := .object [("mail", .string "m"), ("address", .object [("city", .string "Oslo"),
      ("place", .object [("lat", .ofInt 60), ("lon", .ofInt 11)]), ("zip", .null)]),
      ("list", .array [.object [("city", .null)]])]
    let refs : List Reference := [⟨"/address/place/lat"⟩, ⟨"mail"⟩, ⟨"/address/place"⟩, ⟨"/mail"⟩,
      ⟨"/list/city"⟩, ⟨"/address/city/name"⟩, ⟨"/address//zip"⟩, ⟨"/"⟩, ⟨"mail"⟩]
    v.Distinct ∧
      (∃ members, Reference.descend (copy v refs) ["address"] = some (.object members) ∧
        Entries.names members = ["city", "zip"]) ∧
      Reference.descend (copy v refs) ["list"] = Reference.descend v ["list"] ∧
      (Reference.descend (copy v refs) ["address", "place", "lon"]).isSome = false ∧
      ∀ r ∈ refs, r.text ∈ excluded v refs ↔ r.text ∈ ["/address/place", "/mail", "mail"] := by
  intro v refs
  have hv : v.Distinct := by decide
  obtain ⟨hpresent, hleft, -, -, hreport⟩ := copy_without_addressed v refs
  refine ⟨hv, ?_, ?_, ?_, ?_⟩
  · obtain ⟨w, hw, hunder⟩ := hleft ["address"] _ (by decide +kernel) rfl
    cases hunder with
    | object hnames =>
        refine ⟨_, hw, hnames.trans ?_⟩
        decide +kernel
    | other hnone => cases hnone
  · obtain ⟨w, hw, hunder⟩ := hleft ["list"] _ (by decide +kernel) rfl
    cases hunder
    exact hw
  · rw [Bool.eq_false_iff, ne_eq, hpresent]
    decide +kernel
  · intro r
    rw [hreport hv]
    revert r
    decide +kernel

end Exclusion
end FeatureFlags
