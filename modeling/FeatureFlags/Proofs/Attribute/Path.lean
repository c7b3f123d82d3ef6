import FeatureFlags.Proofs.Attribute.Name

/-! # Paths and the names they stand for

A path writes each name behind a slash, with its tildes and slashes escaped.

* **From names to a path** (`components_ofComponents`, `isValid_ofComponents`) — reading the path
  gives the names back, and it is valid, if none of the names is empty.
* **From a path to names** (`ofComponents_components`) — the names of a valid path make up the path
  again, so that there is one valid path to each list of names. The single slash is the exception:
  it is valid but leads nowhere (`root`).

What is escaped is made of `~0`, `~1` and other characters (`Escaped`). Each of these is read as one
character, in whatever order the two passes of unescaping come across them. -/

namespace FeatureFlags
namespace Reference

variable {cs rest : List Char} {pieces : List (List Char)} {names : List String} {r s : Reference}

/-! ## Escaping

A name is escaped character by character. To escape all tildes and then all slashes gives the same
(`escape_eq`); the other order would escape the tildes of escaped slashes once more. -/

def escapeTilde (cs : List Char) : List Char :=
  cs.flatMap fun c => if c = '~' then ['~', '0'] else [c]

def escapeSlash (cs : List Char) : List Char :=
  cs.flatMap fun c => if c = '/' then ['~', '1'] else [c]

/-- To escape a name is to escape its tildes first, and then its slashes. -/
theorem escape_eq (cs : List Char) : escape cs = escapeSlash (escapeTilde cs) := by
  induction cs using escape_induction with
  | nil => rfl
  | tilde cs es ih => simp_all [escapeTilde, escapeSlash]
  | slash cs es ih => simp_all [escapeTilde, escapeSlash]
  | plain c cs es htilde hslash ih => simp_all [escapeTilde, escapeSlash]

inductive Escaped : List Char → Prop where
  | nil : Escaped []
  | tilde {cs : List Char} (h : Escaped cs) : Escaped ('~' :: '0' :: cs)
  | slash {cs : List Char} (h : Escaped cs) : Escaped ('~' :: '1' :: cs)
  | plain {c : Char} {cs : List Char} (hc : c ≠ '~') (h : Escaped cs) : Escaped (c :: cs)

namespace Escaped

theorem of_tildesEscaped : (cs : List Char) → tildesEscaped cs = true → Escaped cs
  | [], _ => nil
  | [c], h => plain (by rintro rfl; cases h) nil
  | c :: d :: cs, h => by
      by_cases htilde : c = '~'
      · subst htilde
        rw [tildesEscaped, Bool.and_eq_true_iff, Bool.or_eq_true_iff, beq_iff_eq, beq_iff_eq] at h
        obtain ⟨rfl | rfl, hrest⟩ := h
        all_goals rw [tildesEscaped_cons (by decide)] at hrest
        · exact tilde (of_tildesEscaped cs hrest)
        · exact slash (of_tildesEscaped cs hrest)
      · rw [tildesEscaped_cons htilde] at h
        exact plain htilde (of_tildesEscaped (d :: cs) h)

theorem tildesEscaped (h : Escaped cs) : Reference.tildesEscaped cs = true := by
  induction h with
  | nil => rfl
  | tilde h ih => simpa [Reference.tildesEscaped, tildesEscaped_cons] using ih
  | slash h ih => simpa [Reference.tildesEscaped, tildesEscaped_cons] using ih
  | plain hc h ih => rwa [tildesEscaped_cons hc]

theorem append (h : Escaped cs) (hrest : Escaped rest) : Escaped (cs ++ rest) := by
  induction h with
  | nil => exact hrest
  | tilde h ih => exact tilde ih
  | slash h ih => exact slash ih
  | plain hc h ih => exact plain hc ih

/-- Two characters that are no slashes stand in front of the slash together. -/
theorem exists_of_append_slash {c d : Char} {tail : List Char} (hc : c ≠ '/') (hd : d ≠ '/')
    (h : cs ++ '/' :: rest = c :: d :: tail) :
    ∃ cs', cs = c :: d :: cs' ∧ cs' ++ '/' :: rest = tail := by
  rcases cs with _ | ⟨first, _ | ⟨second, cs⟩⟩
  · exact absurd (List.cons.inj h).1.symm hc
  · exact absurd (List.cons.inj (List.cons.inj h).2).1.symm hd
  · simp only [List.cons_append, List.cons.injEq] at h
    obtain ⟨rfl, rfl, htail⟩ := h
    exact ⟨cs, rfl, htail⟩

/-- A slash stands between escaped characters, not within one. -/
theorem of_append_slash (h : Escaped (cs ++ '/' :: rest)) : Escaped cs ∧ Escaped rest := by
  generalize hwhole : cs ++ '/' :: rest = whole at h
  induction h generalizing cs with
  | nil => simp at hwhole
  | tilde h ih =>
      obtain ⟨cs', rfl, htail⟩ := exists_of_append_slash (by decide) (by decide) hwhole
      obtain ⟨hcs, hrest⟩ := ih htail
      exact ⟨tilde hcs, hrest⟩
  | slash h ih =>
      obtain ⟨cs', rfl, htail⟩ := exists_of_append_slash (by decide) (by decide) hwhole
      obtain ⟨hcs, hrest⟩ := ih htail
      exact ⟨slash hcs, hrest⟩
  | plain hc h ih =>
      cases cs with
      | nil =>
          obtain ⟨-, rfl⟩ := List.cons.inj hwhole
          exact ⟨nil, h⟩
      | cons first cs' =>
          obtain ⟨rfl, htail⟩ := List.cons.inj hwhole
          obtain ⟨hcs, hrest⟩ := ih htail
          exact ⟨plain hc hcs, hrest⟩

/-- Text is escaped if the pieces between its slashes are. -/
theorem intercalate_iff :
    Escaped (['/'].intercalate pieces) ↔ ∀ piece ∈ pieces, Escaped piece := by
  induction pieces with
  | nil => exact iff_of_true nil nofun
  | cons piece pieces ih =>
      cases pieces with
      | nil => rw [List.intercalate_singleton, List.forall_mem_singleton]
      | cons next rest =>
          rw [List.intercalate_cons_cons, List.append_assoc, List.singleton_append,
            List.forall_mem_cons, ← ih]
          constructor
          · exact of_append_slash
          · rintro ⟨hpiece, hrest⟩
            exact hpiece.append (plain (by decide) hrest)

end Escaped

theorem escaped_escape (cs : List Char) : Escaped (escape cs) :=
  .of_tildesEscaped _ (tildesEscaped_escape cs)

/-- What is read from an escaped component is written as that component. -/
theorem escape_unescape (h : Escaped cs) (hslash : '/' ∉ cs) : escape (unescape cs) = cs := by
  induction h with
  | nil => rfl
  | @tilde cs h ih =>
      have hrest : escape (unescape cs) = cs := ih (by simpa using hslash)
      rw [unescape_tilde]
      show '~' :: '0' :: escape (unescape cs) = _
      rw [hrest]
  | @slash cs h ih =>
      have hrest : escape (unescape cs) = cs := ih (by simpa using hslash)
      rw [unescape_slash]
      show '~' :: '1' :: escape (unescape cs) = _
      rw [hrest]
  | @plain c cs hc h ih =>
      obtain ⟨hne, hnot⟩ := not_or.mp (mt List.mem_cons.mpr hslash)
      rw [unescape_cons hc, escape_cons hc (Ne.symm hne), ih hnot]

/-! ## From names to a path and back

An escaped name holds no slash, so the slashes of the path are those in front of its names and
nothing else. That is what reading and the scan for two slashes in a row rely on. -/

/-- The path of some names, with the slashes in front of them and in between. -/
theorem toList_ofComponents (hne : names ≠ []) :
    (ofComponents names).text.toList
      = '/' :: ['/'].intercalate (names.map fun name => escape name.toList) := by
  have hpieces : (names.map fun name => escape name.toList) ≠ [] := by simpa using hne
  rw [ofComponents, String.toList_ofList, ← Text.flatMap_separator_cons hpieces, List.flatMap_map]

theorem ofComponents_eq (hne : names ≠ []) :
    ofComponents names
      = ⟨String.ofList ('/' :: ['/'].intercalate (names.map fun name => escape name.toList))⟩ := by
  refine eq_of_text_eq ?_
  rw [← toList_ofComponents hne, String.ofList_toList]

/-- A path is read as the names that it was made from. -/
theorem components_ofComponents (hne : names ≠ []) (hnames : ∀ name ∈ names, name ≠ "") :
    (ofComponents names).components = names := by
  have hsplit : Text.split '/' (['/'].intercalate (names.map fun name => escape name.toList))
      = names.map fun name => escape name.toList := by
    refine Text.split_intercalate (by simpa using hne) ?_
    rw [List.forall_mem_map]
    exact fun name _ => slash_not_mem_escape name.toList
  -- Behind the slash in front stands something: the only path without is that of the empty name.
  have hpath : ['/'].intercalate (names.map fun name => escape name.toList) ≠ [] := by
    intro hnil
    rw [hnil] at hsplit
    have hmem : [] ∈ names.map fun name => escape name.toList := hsplit ▸ List.mem_singleton_self []
    obtain ⟨name, hname, hempty⟩ := List.mem_map.mp hmem
    exact hnames name hname (String.toList_eq_nil_iff.mp (escape_eq_nil_iff.mp hempty))
  rw [ofComponents_eq hne, components, componentsOf_slash_cons hpath, hsplit, List.map_map]
  calc names.map _
      = names.map id := List.map_congr_left fun name _ => by simp [unescape_escape]
    _ = names := List.map_id names

theorem hasEmptyComponent_append (h : '/' ∉ cs) :
    hasEmptyComponent (cs ++ rest) = hasEmptyComponent rest := by
  induction cs with
  | nil => rfl
  | cons c cs ih =>
      obtain ⟨hc, hcs⟩ := not_or.mp (mt List.mem_cons.mpr h)
      rw [List.cons_append, hasEmptyComponent, ih hcs]
      rintro _ rfl
      exact absurd rfl hc

/-- Behind the slash in front, two slashes follow each other exactly if a piece is empty that is not
the last one. -/
theorem hasEmptyComponent_intercalate_iff (hslash : ∀ piece ∈ pieces, '/' ∉ piece) :
    hasEmptyComponent ('/' :: ['/'].intercalate pieces) = false
      ↔ ∀ piece ∈ pieces.dropLast, piece ≠ [] := by
  induction pieces with
  | nil => exact iff_of_true rfl nofun
  | cons piece pieces ih =>
      obtain ⟨hnot, hnots⟩ := List.forall_mem_cons.mp hslash
      cases pieces with
      | nil =>
          rw [List.intercalate_singleton]
          exact iff_of_true (hasEmptyComponent_cons hnot) nofun
      | cons next rest =>
          rw [List.intercalate_cons_cons, List.append_assoc, List.singleton_append,
            List.dropLast_cons_cons, List.forall_mem_cons, ← ih hnots]
          -- An empty piece leaves the slash in front of it next to the one behind it.
          cases piece with
          | nil => exact iff_of_false nofun fun h => h.1 rfl
          | cons c cs =>
              have hc : c ≠ '/' := fun heq => hnot (heq ▸ List.mem_cons_self)
              rw [List.cons_append, hasEmptyComponent, ← List.cons_append,
                hasEmptyComponent_append hnot]
              · exact (and_iff_right (List.cons_ne_nil c cs)).symm
              · rintro _ - ⟨⟩
                exact hc rfl

/-- A path is valid if it has no two slashes in a row and its tildes are escaped. -/
theorem isValid_slash_cons_iff :
    (Reference.mk (String.ofList ('/' :: cs))).isValid = true
      ↔ hasEmptyComponent ('/' :: cs) = false ∧ Escaped cs := by
  have hescaped : tildesEscaped ('/' :: cs) = true ↔ Escaped cs := by
    rw [tildesEscaped_cons (by decide)]
    exact ⟨Escaped.of_tildesEscaped cs, Escaped.tildesEscaped⟩
  have hlast : tildesEscaped ('/' :: cs) = true → ('/' :: cs).getLast? ≠ some '~' :=
    getLast?_ne_tilde
  rw [← hescaped]
  simp only [isValid, isValidText, String.toList_ofList, List.head?_cons, bne_self_eq_false,
    Bool.false_or, Bool.and_eq_true, Bool.not_eq_true', bne_iff_ne]
  constructor
  · rintro ⟨⟨hempty, -⟩, htildes⟩
    exact ⟨hempty, htildes⟩
  · rintro ⟨hempty, htildes⟩
    exact ⟨⟨hempty, hlast htildes⟩, htildes⟩

/-- A path of names of which none is empty is valid. -/
theorem isValid_ofComponents (hne : names ≠ []) (hnames : ∀ name ∈ names, name ≠ "") :
    (ofComponents names).isValid = true := by
  rw [ofComponents_eq hne, isValid_slash_cons_iff, hasEmptyComponent_intercalate_iff,
    Escaped.intercalate_iff]
  · constructor
    · intro piece hpiece hnil
      obtain ⟨name, hname, rfl⟩ := List.mem_map.mp (List.dropLast_subset _ hpiece)
      exact hnames name hname (String.toList_eq_nil_iff.mp (escape_eq_nil_iff.mp hnil))
    · rw [List.forall_mem_map]
      exact fun name _ => escaped_escape name.toList
  · rw [List.forall_mem_map]
    exact fun name _ => slash_not_mem_escape name.toList

/-! ## From a path to its names and back

Between the slashes of a valid path stands escaped text, and escaping brings back what unescaping
has made of it (`escape_unescape`). -/

/-- The reference is a path, and not a literal. -/
def IsPath (r : Reference) : Prop := r.text.toList.head? = some '/'

instance (r : Reference) : Decidable r.IsPath := inferInstanceAs (Decidable (_ = some '/'))

def root : Reference := ⟨"/"⟩

theorem IsPath.exists_cons (h : r.IsPath) (hroot : r ≠ root) :
    ∃ cs, cs ≠ [] ∧ r = ⟨String.ofList ('/' :: cs)⟩ := by
  obtain ⟨cs, hcs⟩ := List.head?_eq_some_iff.mp h
  have hpath : r = ⟨String.ofList ('/' :: cs)⟩ :=
    eq_of_text_eq (by rw [← hcs, String.ofList_toList])
  refine ⟨cs, ?_, hpath⟩
  rintro rfl
  exact hroot hpath

/-- The names of a valid path make up the path. -/
theorem ofComponents_components (h : r.IsPath) (hvalid : r.isValid = true) (hroot : r ≠ root) :
    ofComponents r.components = r := by
  obtain ⟨cs, hne, rfl⟩ := h.exists_cons hroot
  have hescaped : ∀ piece ∈ Text.split '/' cs, Escaped piece := by
    rw [← Escaped.intercalate_iff, Text.intercalate_split]
    exact (isValid_slash_cons_iff.mp hvalid).2
  have hback : ((Text.split '/' cs).map fun piece => escape (String.ofList (unescape piece)).toList)
      = (Text.split '/' cs).map id := by
    refine List.map_congr_left fun piece hpiece => ?_
    rw [String.toList_ofList]
    exact escape_unescape (hescaped piece hpiece) (Text.separator_not_mem hpiece)
  refine eq_of_text_eq ?_
  rw [components, componentsOf_slash_cons hne, ofComponents, List.flatMap_map]
  refine congrArg String.ofList ?_
  calc (Text.split '/' cs).flatMap _
      = ((Text.split '/' cs).map fun piece =>
          escape (String.ofList (unescape piece)).toList).flatMap ('/' :: ·) := by
        rw [List.flatMap_map]
    _ = (Text.split '/' cs).flatMap ('/' :: ·) := by rw [hback, List.map_id]
    _ = '/' :: ['/'].intercalate (Text.split '/' cs) :=
        Text.flatMap_separator_cons (Text.split_ne_nil '/' cs)
    _ = '/' :: cs := by rw [Text.intercalate_split]

theorem IsPath.components_ne_nil (h : r.IsPath) (hroot : r ≠ root) : r.components ≠ [] := by
  obtain ⟨cs, hne, rfl⟩ := h.exists_cons hroot
  rw [components, componentsOf_slash_cons hne]
  simpa using Text.split_ne_nil '/' cs

/-- Valid paths that lead to the same names are the same path. -/
theorem IsPath.eq_of_components_eq (hr : r.IsPath) (hs : s.IsPath) (hvalid : r.isValid = true)
    (hvalid' : s.isValid = true) (h : r.components = s.components) : r = s := by
  by_cases hroot : r = root
  · subst hroot
    by_cases hroot' : s = root
    · exact hroot'.symm
    · exact absurd h.symm (hs.components_ne_nil hroot')
  · by_cases hroot' : s = root
    · subst hroot'
      exact absurd h (hr.components_ne_nil hroot)
    · rw [← ofComponents_components hr hvalid hroot, h, ofComponents_components hs hvalid' hroot']

/-- The path of a name reads the member of that name. -/
theorem get?_ofName {name : String} (h : name ≠ "") (v : Json) :
    (ofName name).get? v = v.member? name := by
  have hcomponents := components_ofName h
  rw [get?_of_ne_nil (hcomponents ▸ List.cons_ne_nil name []), hcomponents, descend_singleton]

/-- **Names and valid paths stand for each other.** Names of which none is empty have a path, in
which each of them stands behind a slash, its tildes escaped first and its slashes then. It is valid
and is read as these names; the path of one name reads the member of that name. The other way round,
a valid path is the path of the names that it is read as, unless it leads nowhere. So two valid
paths address the same attribute only if they are the same text. -/
theorem paths_and_names :
    (∀ names : List String, names ≠ [] → (∀ name ∈ names, name ≠ "") →
      (ofComponents names).text.toList = '/' :: ['/'].intercalate
        (names.map fun name => escapeSlash (escapeTilde name.toList)) ∧
      (ofComponents names).isValid = true ∧ (ofComponents names).components = names) ∧
    (∀ name : String, name ≠ "" → (ofName name).isValid = true ∧
      (ofName name).components = [name] ∧ ∀ v : Json, (ofName name).get? v = v.member? name) ∧
    (∀ r : Reference, r.IsPath → r.isValid = true → r ≠ root → ofComponents r.components = r) ∧
    ∀ r s : Reference, r.IsPath → s.IsPath → r.isValid = true → s.isValid = true →
      r.same s = true → r = s := by
  refine ⟨fun names hne hnames => ⟨?_, ?_, ?_⟩, fun name hne => ⟨?_, ?_, ?_⟩, ?_, ?_⟩
  · simp only [toList_ofComponents hne, escape_eq]
  · exact isValid_ofComponents hne hnames
  · exact components_ofComponents hne hnames
  · exact isValid_ofName name
  · exact components_ofName hne
  · exact get?_ofName hne
  · intro r hpath hvalid hroot
    exact ofComponents_components hpath hvalid hroot
  · intro r s hr hs hvalid hvalid' hsame
    exact hr.eq_of_components_eq hs hvalid hvalid' (eq_of_beq hsame)

/-- Names that are made of slashes and tildes, and look escaped themselves. -/
theorem paths_and_names_escaped :
    let names := ["a/b", "~1", "//~0"]
    (ofComponents names).text = "/a~1b/~01/~1~1~00" ∧ (ofComponents names).isValid = true ∧
      (ofComponents names).components = names ∧ ofComponents (Reference.mk "/~01/").components
        = ⟨"/~01/"⟩ := by
  intro names
  obtain ⟨hnames, -, hpath, -⟩ := paths_and_names
  obtain ⟨-, hvalid, hcomponents⟩ := hnames names (by decide) (by decide)
  exact ⟨by decide +kernel, hvalid, hcomponents,
    hpath ⟨"/~01/"⟩ (by decide +kernel) (by decide +kernel) (by decide)⟩

end Reference
end FeatureFlags
