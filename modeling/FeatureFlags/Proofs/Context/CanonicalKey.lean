import FeatureFlags.Proofs.Context.Acceptance

/-! # Canonical keys tell contexts apart

The canonical key of a context that is not just a user writes its kinds out, each with its key, in
the order of the kinds.

* **Reading it back** (`joined_inj`) — it can be cut at its colons again, since no kind holds one
  and in the keys they are escaped. So what is written determines the kinds and the keys.
* **The order** (`sortByKind_eq_iff`) — put in order, kinds that are not repeated tell everything
  but the order they had.
* **The keys** (`Valid.keyedKinds_spec`) — a context has a key for each of its kinds, so that none
  is passed over.

Two contexts that name a kind other than that of users therefore have the same canonical key exactly
if they have the same kinds with the same keys (`canonicalKey_eq_iff`). Users have to be left out:
their canonical key is their key as it stands, whatever it looks like. -/

namespace FeatureFlags
namespace Context

/-! ## Escaped keys

Escaping turns the colon and the percent sign into three characters and keeps all others, so that
each character can be read off from the front. -/

/-- What a character is escaped as tells the character. -/
theorem escapeKeyChar_append_inj {c d : Char} {cs ds : List Char}
    (h : escapeKeyChar c ++ cs = escapeKeyChar d ++ ds) : c = d ∧ cs = ds := by
  unfold escapeKeyChar at h
  -- Only escapes begin with a percent sign, and the two differ behind it.
  split at h <;> split at h <;> grind

theorem escapeKeyChar_ne_nil (c : Char) : escapeKeyChar c ≠ [] := by
  unfold escapeKeyChar
  split <;> exact List.cons_ne_nil _ _

theorem flatMap_escapeKeyChar_inj {cs ds : List Char}
    (h : cs.flatMap escapeKeyChar = ds.flatMap escapeKeyChar) : cs = ds := by
  induction cs generalizing ds with
  | nil =>
      cases ds with
      | nil => rfl
      | cons d ds =>
          rw [List.flatMap_cons, List.flatMap_nil] at h
          exact absurd (List.append_eq_nil_iff.mp h.symm).1 (escapeKeyChar_ne_nil d)
  | cons c cs ih =>
      cases ds with
      | nil =>
          rw [List.flatMap_cons, List.flatMap_nil] at h
          exact absurd (List.append_eq_nil_iff.mp h).1 (escapeKeyChar_ne_nil c)
      | cons d ds =>
          rw [List.flatMap_cons, List.flatMap_cons] at h
          obtain ⟨rfl, hrest⟩ := escapeKeyChar_append_inj h
          rw [ih hrest]

/-- Different keys are escaped differently. -/
theorem escapeKey_inj {key key' : String} (h : escapeKey key = escapeKey key') : key = key' :=
  String.toList_injective (flatMap_escapeKeyChar_inj (String.ofList_injective h))

/-- An escaped key holds no colon. -/
theorem colon_not_mem_escapeKey (key : String) : ':' ∉ (escapeKey key).toList := by
  rw [escapeKey, String.toList_ofList]
  intro h
  obtain ⟨c, -, hc⟩ := List.mem_flatMap.mp h
  unfold escapeKeyChar at hc
  split at hc <;> grind

/-- A kind holds no colon. -/
theorem colon_not_mem_of_isValidKind {kind : String} (h : isValidKind kind = true) :
    ':' ∉ kind.toList := by
  intro hmem
  obtain ⟨-, hall⟩ := Bool.and_eq_true_iff.mp h
  exact absurd (List.all_eq_true.mp hall ':' hmem) (by decide)

/-! ## What is written and what is read

Written text (`joined`) is compared by what stands between its colons (`pieces`), which is a kind
and an escaped key in turn. -/

variable {ps qs : Entries String}

def joined (ps : Entries String) : String := ":".intercalate (ps.map fun p => kindAndKey p.1 p.2)

def pieces (ps : Entries String) : List (List Char) :=
  ps.flatMap fun p => [p.1.toList, (escapeKey p.2).toList]

theorem pieces_cons (p : String × String) (ps : Entries String) :
    pieces (p :: ps) = p.1.toList :: (escapeKey p.2).toList :: pieces ps :=
  rfl

theorem toList_joined (ps : Entries String) :
    (joined ps).toList = [':'].intercalate (pieces ps) := by
  have hcolon : ":".toList = [':'] := rfl
  rw [joined, String.toList_intercalate, hcolon]
  induction ps with
  | nil => rfl
  | cons p ps ih =>
      have hp : (kindAndKey p.1 p.2).toList = p.1.toList ++ [':'] ++ (escapeKey p.2).toList := by
        rw [kindAndKey, String.toList_append, String.toList_append, hcolon]
      rw [pieces_cons, List.intercalate_cons_cons]
      -- Kinds and pieces are joined by the same colons, so a colon follows unless this is the last.
      cases ps with
      | nil =>
          rw [List.map_cons, List.map_cons, hp]
          exact List.intercalate_singleton.trans
            (congrArg _ List.intercalate_singleton.symm)
      | cons q qs =>
          rw [List.map_cons, List.map_cons, List.map_cons, List.map_cons,
            List.intercalate_cons_cons, hp, pieces_cons, List.intercalate_cons_cons]
          rw [List.map_cons, List.map_cons, pieces_cons] at ih
          rw [ih]
          simp only [List.append_assoc]

theorem colon_not_mem_pieces (hps : ∀ p ∈ ps, isValidKind p.1 = true) :
    ∀ piece ∈ pieces ps, ':' ∉ piece := by
  intro piece hpiece
  obtain ⟨p, hp, hpiece⟩ := List.mem_flatMap.mp hpiece
  rcases List.mem_cons.mp hpiece with rfl | hpiece
  · exact colon_not_mem_of_isValidKind (hps p hp)
  · rw [List.mem_singleton.mp hpiece]
    exact colon_not_mem_escapeKey p.2

theorem pieces_inj (h : pieces ps = pieces qs) : ps = qs := by
  induction ps generalizing qs with
  | nil =>
      cases qs with
      | nil => rfl
      | cons q qs => cases h
  | cons p ps ih =>
      cases qs with
      | nil => cases h
      | cons q qs =>
          rw [pieces_cons, pieces_cons] at h
          obtain ⟨hkind, h⟩ := List.cons_eq_cons.mp h
          obtain ⟨hkey, hrest⟩ := List.cons_eq_cons.mp h
          have hp : p = q := Prod.ext (String.toList_injective hkind)
            (escapeKey_inj (String.toList_injective hkey))
          rw [hp, ih hrest]

/-- What is written is cut at the colons again. -/
theorem split_joined (hne : ps ≠ []) (hps : ∀ p ∈ ps, isValidKind p.1 = true) :
    Text.split ':' (joined ps).toList = pieces ps := by
  rw [toList_joined]
  refine Text.split_intercalate (fun hnil => ?_) (colon_not_mem_pieces hps)
  exact hne (pieces_inj hnil)

/-- Something is written for every kind. -/
theorem joined_ne_empty (hne : ps ≠ []) (hps : ∀ p ∈ ps, isValidKind p.1 = true) :
    joined ps ≠ "" := by
  intro hempty
  have hsplit := split_joined hne hps
  rw [hempty] at hsplit
  cases ps with
  | nil => exact hne rfl
  | cons p ps =>
      obtain ⟨-, hrest⟩ := List.cons_eq_cons.mp hsplit
      cases hrest

/-- What is written determines the kinds and the keys. -/
theorem joined_inj (hps : ∀ p ∈ ps, isValidKind p.1 = true)
    (hqs : ∀ q ∈ qs, isValidKind q.1 = true) (h : joined ps = joined qs) : ps = qs := by
  by_cases hpne : ps = []
  · subst hpne
    by_cases hqne : qs = []
    · exact hqne.symm
    · exact absurd h.symm (joined_ne_empty hqne hqs)
  · by_cases hqne : qs = []
    · subst hqne
      exact absurd h (joined_ne_empty hpne hps)
    · refine pieces_inj ?_
      rw [← split_joined hpne hps, ← split_joined hqne hqs, h]

/-! ## The order of kinds

Sorting by kind permutes the entries, and no two entries of different kinds can change places. -/

theorem pairwise_sortByKind (ps : Entries String) :
    (sortByKind ps).Pairwise fun p q => decide (p.1 ≤ q.1) = true := by
  refine List.pairwise_mergeSort (fun p q r hpq hqr => ?_) (fun p q => ?_) ps
  · exact decide_eq_true (String.le_trans (of_decide_eq_true hpq) (of_decide_eq_true hqr))
  · rw [Bool.or_eq_true, decide_eq_true_iff, decide_eq_true_iff]
    exact String.le_total p.1 q.1

/-- Put in order, kinds that are not repeated tell everything but the order they had. -/
theorem sortByKind_eq_iff (hps : (Entries.names ps).Nodup) :
    sortByKind ps = sortByKind qs ↔ ps.Perm qs := by
  have hp : (sortByKind ps).Perm ps := List.mergeSort_perm ps _
  have hq : (sortByKind qs).Perm qs := List.mergeSort_perm qs _
  constructor
  · intro h
    exact hp.symm.trans (h ▸ hq)
  · intro h
    refine List.Perm.eq_of_pairwise ?_ (pairwise_sortByKind ps) (pairwise_sortByKind qs)
      (hp.trans (h.trans hq.symm))
    intro p q hmemp hmemq hpq hqp
    have hkind : p.1 = q.1 :=
      String.le_antisymm (of_decide_eq_true hpq) (of_decide_eq_true hqp)
    have hpfound := Entries.find?_of_mem hps (hp.mem_iff.mp hmemp)
    have hqfound := Entries.find?_of_mem hps (h.mem_iff.mpr (hq.mem_iff.mp hmemq))
    rw [hkind, hqfound] at hpfound
    exact Prod.ext hkind (Option.some.inj hpfound).symm

/-! ## The kinds of a context with their keys

As lists, the keyed kinds of two contexts are permutations of each other exactly if looking up a key
gives the same in both. -/

variable {c c₁ c₂ : Context}

def keyedKinds (c : Context) : Entries String := (kindsWithKeys? c.kinds c.key?).getD []

/-- Where every kind has a key, all of them are listed. -/
theorem exists_kindsWithKeys? {kinds : List String} {key? : String → Option String}
    (h : ∀ kind ∈ kinds, (key? kind).isSome = true) :
    ∃ ps, kindsWithKeys? kinds key? = some ps ∧ Entries.names ps = kinds ∧
      ∀ p ∈ ps, key? p.1 = some p.2 := by
  induction kinds with
  | nil => exact ⟨[], rfl, rfl, nofun⟩
  | cons kind kinds ih =>
      obtain ⟨hkind, hkinds⟩ := List.forall_mem_cons.mp h
      obtain ⟨key, hkey⟩ := Option.isSome_iff_exists.mp hkind
      obtain ⟨ps, hps, rfl, hkeys⟩ := ih hkinds
      refine ⟨(kind, key) :: ps, ?_, rfl, List.forall_mem_cons.mpr ⟨hkey, hkeys⟩⟩
      rw [kindsWithKeys?, List.mapM_cons, ← kindsWithKeys?, hps, hkey]
      rfl

theorem Valid.keyedKinds_spec (h : c.Valid) :
    kindsWithKeys? c.kinds c.key? = some c.keyedKinds ∧ Entries.names c.keyedKinds = c.kinds ∧
      ∀ p ∈ c.keyedKinds, c.key? p.1 = some p.2 := by
  obtain ⟨ps, hps, hnames, hkeys⟩ :=
    exists_kindsWithKeys? fun _ hmem => h.mem_kinds_iff_key?.mp hmem
  rw [keyedKinds, hps]
  exact ⟨rfl, hnames, hkeys⟩

theorem Valid.mem_keyedKinds (h : c.Valid) {p : String × String} :
    p ∈ c.keyedKinds ↔ c.key? p.1 = some p.2 := by
  obtain ⟨-, hnames, hkeys⟩ := h.keyedKinds_spec
  constructor
  · exact hkeys p
  · intro hkey
    have hmem : p.1 ∈ Entries.names c.keyedKinds := by
      rw [hnames, h.mem_kinds_iff_key?, hkey]
      rfl
    obtain ⟨q, hq, hkind⟩ := List.mem_map.mp hmem
    have hkey' := hkeys q hq
    rw [hkind, hkey] at hkey'
    have hpq : q = p := Prod.ext hkind (Option.some.inj hkey').symm
    exact hpq ▸ hq

/-- The same keys are listed for the same kinds, in the order of the kinds. -/
theorem perm_keyedKinds_iff (h₁ : c₁.Valid) (h₂ : c₂.Valid) (hnodup₁ : c₁.kinds.Nodup)
    (hnodup₂ : c₂.kinds.Nodup) :
    c₁.keyedKinds.Perm c₂.keyedKinds ↔ ∀ kind, c₁.key? kind = c₂.key? kind := by
  have hnodup : ∀ {c : Context}, c.Valid → c.kinds.Nodup → c.keyedKinds.Nodup := by
    intro c h hkinds
    rw [← h.keyedKinds_spec.2.1] at hkinds
    exact List.Pairwise.of_map Prod.fst (fun _ _ hne heq => hne (congrArg Prod.fst heq)) hkinds
  rw [List.perm_ext_iff_of_nodup (hnodup h₁ hnodup₁) (hnodup h₂ hnodup₂)]
  constructor
  · intro h kind
    refine Option.ext fun key => ?_
    have := h (kind, key)
    rwa [h₁.mem_keyedKinds, h₂.mem_keyedKinds] at this
  · intro h p
    rw [h₁.mem_keyedKinds, h₂.mem_keyedKinds, h p.1]

/-! ## Canonical keys that write the kinds out

A single context that is no user is written as a list of one kind. -/

def NamesOtherKind (c : Context) : Prop := ∃ own, c.ownKind? = some own ∧ own ≠ defaultKind

/-- A legacy user names no kind. -/
theorem Valid.legacy_eq_false (h : c.Valid) {own : String} (hown : c.ownKind? = some own) :
    c.legacy = false := by
  cases h with
  | legacy hkind =>
      rw [ownKind?_eq_none_of_isLegacy hkind] at hown
      cases hown
  | single => rfl
  | multi => rfl

/-- The only kind of a context is listed with a key that is not empty. -/
theorem Valid.keyedKinds_of_single (h : c.Valid) {own : String} (hown : c.ownKind? = some own)
    (hne : own ≠ multiKind) :
    ∃ key, key ≠ "" ∧ c.key? own = some key ∧ c.keyedKinds = [(own, key)] := by
  have hsingle : c.isMulti = false := by
    rw [isMulti, hown]
    exact beq_eq_false_iff_ne.mpr fun heq => hne (Option.some.inj heq)
  have hkinds : c.kinds = [own] := by rw [h.kinds_of_not_multi hsingle, hown, Option.getD_some]
  have hmem : own ∈ c.kinds := by
    rw [hkinds]
    exact List.mem_singleton_self own
  obtain ⟨key, hkey, hnonempty⟩ := h.exists_key hmem
  refine ⟨key, hnonempty (h.legacy_eq_false hown), hkey, ?_⟩
  rw [keyedKinds, kindsWithKeys?, hkinds, List.mapM_cons, hkey]
  rfl

/-- Unless it is a user, the canonical key of a context is made of its kinds and keys in order. -/
theorem Valid.canonicalKey_eq_joined (h : c.Valid) (hnodup : c.kinds.Nodup)
    (hkind : c.NamesOtherKind) : c.canonicalKey = joined (sortByKind c.keyedKinds) := by
  obtain ⟨own, hown, hne⟩ := hkind
  rw [canonicalKey, h.canonicalKeyOf?_eq hnodup, hown, identity?, if_neg hne]
  by_cases hmulti : own = multiKind
  · rw [if_pos hmulti, h.keyedKinds_spec.1]
    rfl
  · obtain ⟨key, hnonempty, hkey, hlisted⟩ := h.keyedKinds_of_single hown hmulti
    rw [if_neg hmulti, hkey, hlisted, sortByKind, List.mergeSort_singleton, joined, List.map_cons,
      List.map_nil, String.intercalate_singleton]
    simp only [Option.bind_eq_bind, Option.bind_some, nonEmpty?, if_neg hnonempty]
    rfl

theorem Valid.isValidKind_sortByKind (h : c.Valid) :
    ∀ p ∈ sortByKind c.keyedKinds, Context.isValidKind p.1 = true := by
  intro p hp
  have hmem : p ∈ c.keyedKinds := (List.mergeSort_perm c.keyedKinds _).mem_iff.mp hp
  refine (h.isValidKind_of_mem_kinds (h.mem_kinds_iff_key?.mpr ?_)).1
  rw [h.mem_keyedKinds.mp hmem]
  rfl

/-- The same canonical keys stand for the same keys of every kind. -/
theorem canonicalKey_eq_iff_key? (h₁ : c₁.Valid) (h₂ : c₂.Valid) (hnodup₁ : c₁.kinds.Nodup)
    (hnodup₂ : c₂.kinds.Nodup) (hkind₁ : c₁.NamesOtherKind) (hkind₂ : c₂.NamesOtherKind) :
    c₁.canonicalKey = c₂.canonicalKey ↔ ∀ kind, c₁.key? kind = c₂.key? kind := by
  have hnames : (Entries.names c₁.keyedKinds).Nodup := h₁.keyedKinds_spec.2.1 ▸ hnodup₁
  calc c₁.canonicalKey = c₂.canonicalKey
      ↔ joined (sortByKind c₁.keyedKinds) = joined (sortByKind c₂.keyedKinds) := by
        rw [h₁.canonicalKey_eq_joined hnodup₁ hkind₁, h₂.canonicalKey_eq_joined hnodup₂ hkind₂]
    _ ↔ sortByKind c₁.keyedKinds = sortByKind c₂.keyedKinds :=
        ⟨joined_inj h₁.isValidKind_sortByKind h₂.isValidKind_sortByKind, congrArg joined⟩
    _ ↔ c₁.keyedKinds.Perm c₂.keyedKinds := sortByKind_eq_iff hnames
    _ ↔ ∀ kind, c₁.key? kind = c₂.key? kind := perm_keyedKinds_iff h₁ h₂ hnodup₁ hnodup₂

/-- **Canonical keys identify contexts.** Two contexts that name their kind, other than users, have
the same canonical key if and only if they have the same kinds and under each of them the same key,
whatever the keys hold and in whatever order the kinds stand. -/
theorem canonicalKey_eq_iff (v₁ v₂ : Json) (hv₁ : v₁.Distinct) (hv₂ : v₂.Distinct)
    (c₁ c₂ : Context) (hc₁ : ofJson v₁ = .ok c₁) (hc₂ : ofJson v₂ = .ok c₂)
    (hkind₁ : c₁.NamesOtherKind) (hkind₂ : c₂.NamesOtherKind) :
    c₁.canonicalKey = c₂.canonicalKey
      ↔ (∀ kind, kind ∈ c₁.kinds ↔ kind ∈ c₂.kinds) ∧
        ∀ kind ∈ c₁.kinds, c₁.key? kind = c₂.key? kind := by
  have h₁ : c₁.Valid := valid_of_ofJson hc₁
  have h₂ : c₂.Valid := valid_of_ofJson hc₂
  rw [canonicalKey_eq_iff_key? h₁ h₂ (nodup_kinds_of_ofJson hv₁ hc₁)
    (nodup_kinds_of_ofJson hv₂ hc₂) hkind₁ hkind₂]
  constructor
  · intro h
    refine ⟨fun kind => ?_, fun kind _ => h kind⟩
    rw [h₁.mem_kinds_iff_key?, h₂.mem_kinds_iff_key?, h kind]
  · rintro ⟨hkinds, hkeys⟩ kind
    by_cases hmem : kind ∈ c₁.kinds
    · exact hkeys kind hmem
    -- Beyond their kinds, neither context has a key.
    · have hnone : ∀ {c : Context}, c.Valid → kind ∉ c.kinds → c.key? kind = none := by
        intro c h hmem
        rw [key?, h.part?_eq_none hmem]
        rfl
      rw [hnone h₁ hmem, hnone h₂ fun hmem₂ => hmem ((hkinds kind).mpr hmem₂)]

/-- A key that looks like two kinds with their keys is told from them, and two kinds in another
order are not told apart. -/
theorem canonicalKey_eq_iff_colons :
    let a : Json := .object [("key", .string "1")]
    let b : Json := .object [("key", .string "2%3A")]
    let v₁ : Json := .object [("kind", .string "a"), ("key", .string "1:b:2%3A")]
    let v₂ : Json := .object [("b", b), ("kind", .string "multi"), ("a", a)]
    let v₃ : Json := .object [("kind", .string "multi"), ("a", a), ("b", b)]
    v₁.Distinct ∧ v₂.Distinct ∧ v₃.Distinct ∧ ∃ c₁ c₂ c₃, ofJson v₁ = .ok c₁ ∧ ofJson v₂ = .ok c₂ ∧
      ofJson v₃ = .ok c₃ ∧ c₁.NamesOtherKind ∧ c₂.NamesOtherKind ∧ c₃.NamesOtherKind ∧
      c₁.canonicalKey ≠ c₂.canonicalKey ∧ c₂.canonicalKey = c₃.canonicalKey := by
  intro a b v₁ v₂ v₃
  have hv₁ : v₁.Distinct := by decide
  have hv₂ : v₂.Distinct := by decide
  have hv₃ : v₃.Distinct := by decide
  let c₁ : Context := ⟨[("kind", .string "a"), ("key", .string "1:b:2%3A")], false⟩
  let c₂ : Context := ⟨[("b", b), ("kind", .string "multi"), ("a", a)], false⟩
  let c₃ : Context := ⟨[("kind", .string "multi"), ("a", a), ("b", b)], false⟩
  have hc₁ : ofJson v₁ = .ok c₁ := rfl
  have hc₂ : ofJson v₂ = .ok c₂ := rfl
  have hc₃ : ofJson v₃ = .ok c₃ := rfl
  have hkind₁ : c₁.NamesOtherKind := ⟨"a", rfl, by decide⟩
  have hkind₂ : c₂.NamesOtherKind := ⟨"multi", rfl, by decide⟩
  have hkind₃ : c₃.NamesOtherKind := ⟨"multi", rfl, by decide⟩
  refine ⟨hv₁, hv₂, hv₃, c₁, c₂, c₃, hc₁, hc₂, hc₃, hkind₁, hkind₂, hkind₃, fun heq => ?_, ?_⟩
  · obtain ⟨hkinds, -⟩ := (canonicalKey_eq_iff v₁ v₂ hv₁ hv₂ c₁ c₂ hc₁ hc₂ hkind₁ hkind₂).mp heq
    have hb : "b" ∈ c₁.kinds := (hkinds "b").mpr (by decide)
    exact absurd hb (by decide)
  · refine (canonicalKey_eq_iff v₂ v₃ hv₂ hv₃ c₂ c₃ hc₂ hc₃ hkind₂ hkind₃).mpr ⟨fun kind => ?_, ?_⟩
    · have hperm : c₂.kinds.Perm c₃.kinds := .swap "a" "b" []
      exact hperm.mem_iff
    · decide

end Context
end FeatureFlags
