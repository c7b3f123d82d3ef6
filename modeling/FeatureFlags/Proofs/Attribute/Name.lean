import FeatureFlags.Attribute.Reference

/-! # References to a name

A path writes the slashes and tildes of a name in an escaped form, so that reading the path gives
the name back (`components_ofName`), whatever characters it holds. Such a path is always valid
(`isValid_ofName`).

A name that is written as it stands is a literal that addresses itself (`components_mk`), but it is
valid only if it looks like no damaged path: two slashes in a row and a tilde at the end are refused
in literals too (`isValid_mk`), although neither means anything there. -/

namespace FeatureFlags
namespace Reference

/-! ## Escaping

Unescaping runs over the text twice, for slashes first and for tildes then. Since `~0` is no slash
to the first pass, and gives a tilde only in the second one, what comes out is never read once
more. -/

theorem unescapeSlash_cons {c : Char} (h : c ≠ '~') (cs : List Char) :
    unescapeSlash (c :: cs) = c :: unescapeSlash cs := by
  rw [unescapeSlash]
  rintro _ rfl
  exact absurd rfl h

theorem unescapeTilde_cons {c : Char} (h : c ≠ '~') (cs : List Char) :
    unescapeTilde (c :: cs) = c :: unescapeTilde cs := by
  rw [unescapeTilde]
  rintro _ rfl
  exact absurd rfl h

theorem tildesEscaped_cons {c : Char} (h : c ≠ '~') (cs : List Char) :
    tildesEscaped (c :: cs) = tildesEscaped cs := by
  rw [tildesEscaped]
  · rintro _ _ rfl
    exact absurd rfl h
  · rintro rfl
    exact absurd rfl h

theorem unescape_tilde (cs : List Char) : unescape ('~' :: '0' :: cs) = '~' :: unescape cs := by
  simp [unescape, unescapeSlash, unescapeTilde]

theorem unescape_slash (cs : List Char) : unescape ('~' :: '1' :: cs) = '/' :: unescape cs := by
  simp [unescape, unescapeSlash, unescapeTilde_cons]

theorem unescape_cons {c : Char} (h : c ≠ '~') (cs : List Char) :
    unescape (c :: cs) = c :: unescape cs := by
  rw [unescape, unescapeSlash_cons h, unescapeTilde_cons h]
  rfl

theorem escape_cons {c : Char} (htilde : c ≠ '~') (hslash : c ≠ '/') (cs : List Char) :
    escape (c :: cs) = c :: escape cs := by
  simp [escape, escapeChar]

/-- A name is escaped character by character, and only the tilde and the slash change. -/
theorem escape_induction {motive : List Char → List Char → Prop} (nil : motive [] [])
    (tilde : ∀ cs es, motive cs es → motive ('~' :: cs) ('~' :: '0' :: es))
    (slash : ∀ cs es, motive cs es → motive ('/' :: cs) ('~' :: '1' :: es))
    (plain : ∀ c cs es, c ≠ '~' → c ≠ '/' → motive cs es → motive (c :: cs) (c :: es))
    (cs : List Char) : motive cs (escape cs) := by
  induction cs with
  | nil => exact nil
  | cons c cs ih =>
      by_cases htilde : c = '~'
      · subst htilde
        exact tilde cs _ ih
      · by_cases hslash : c = '/'
        · subst hslash
          exact slash cs _ ih
        · rw [escape_cons htilde hslash]
          exact plain c cs _ htilde hslash ih

/-- Escaping is undone exactly. -/
theorem unescape_escape (cs : List Char) : unescape (escape cs) = cs := by
  induction cs using escape_induction with
  | nil => rfl
  | tilde cs es ih => rw [unescape_tilde, ih]
  | slash cs es ih => rw [unescape_slash, ih]
  | plain c cs es htilde hslash ih => rw [unescape_cons htilde, ih]

theorem escape_eq_nil_iff {cs : List Char} : escape cs = [] ↔ cs = [] := by
  constructor
  · intro h
    rw [← unescape_escape cs, h]
    rfl
  · rintro rfl
    rfl

theorem slash_not_mem_escape (cs : List Char) : '/' ∉ escape cs := by
  induction cs using escape_induction with
  | nil => simp
  | tilde cs es ih => simp [ih]
  | slash cs es ih => simp [ih]
  | plain c cs es htilde hslash ih => simp [ih, Ne.symm hslash]

/-! ## Validity

The three checks are scans. None of them finds anything in a name that has been escaped. -/

theorem tildesEscaped_escape (cs : List Char) : tildesEscaped (escape cs) = true := by
  induction cs using escape_induction with
  | nil => rfl
  | tilde cs es ih => simp [tildesEscaped, tildesEscaped_cons, ih]
  | slash cs es ih => simp [tildesEscaped, tildesEscaped_cons, ih]
  | plain c cs es htilde hslash ih => rw [tildesEscaped_cons htilde, ih]

/-- Where each tilde is escaped, none stands at the end. -/
theorem getLast?_ne_tilde {cs : List Char} (h : tildesEscaped cs = true) :
    cs.getLast? ≠ some '~' := by
  induction cs with
  | nil => simp
  | cons c cs ih =>
      cases cs with
      | nil =>
          intro hlast
          obtain rfl : c = '~' := by simpa using hlast
          cases h
      | cons d ds =>
          rw [List.getLast?_cons_cons]
          apply ih
          by_cases htilde : c = '~'
          · subst htilde
            rw [tildesEscaped] at h
            exact (Bool.and_eq_true_iff.mp h).2
          · rwa [tildesEscaped_cons htilde] at h

theorem hasEmptyComponent_cons {c : Char} {cs : List Char} (h : '/' ∉ cs) :
    hasEmptyComponent (c :: cs) = false := by
  induction cs generalizing c with
  | nil => simp [hasEmptyComponent]
  | cons d ds ih =>
      obtain ⟨hd, hds⟩ := not_or.mp (mt List.mem_cons.mpr h)
      rw [hasEmptyComponent, ih hds]
      rintro _ - ⟨⟩
      exact hd rfl

/-- The path of a name is valid, whatever characters the name holds. -/
theorem isValid_ofName (name : String) : (ofName name).isValid = true := by
  have hempty : hasEmptyComponent ('/' :: escape name.toList) = false :=
    hasEmptyComponent_cons (slash_not_mem_escape _)
  have htildes : tildesEscaped ('/' :: escape name.toList) = true := by
    rw [tildesEscaped_cons (by decide), tildesEscaped_escape]
  have hlast : ('/' :: escape name.toList).getLast? ≠ some '~' := getLast?_ne_tilde htildes
  simp [isValid, isValidText, ofName, hempty, htildes, bne_iff_ne.mpr hlast]

/-- Text without a slash in front is a valid literal if it has no two slashes in a row and no tilde
at its end. -/
theorem isValid_mk {text : String} (h : text.toList.head? ≠ some '/') :
    (Reference.mk text).isValid
      = (!hasEmptyComponent text.toList && text.toList.getLast? != some '~') := by
  simp [isValid, isValidText, bne_iff_ne.mpr h]

/-! ## Components

A path is cut at its slashes, and an escaped name has none. -/

theorem componentsOf_slash_cons {cs : List Char} (h : cs ≠ []) :
    componentsOf (String.ofList ('/' :: cs))
      = (Text.split '/' cs).map fun piece => String.ofList (unescape piece) := by
  cases cs with
  | nil => exact absurd rfl h
  | cons c cs => simp [componentsOf]

/-- The path of a name addresses that name. Only the empty name has no path. -/
theorem components_ofName {name : String} (h : name ≠ "") : (ofName name).components = [name] := by
  have hne : escape name.toList ≠ [] := fun hnil =>
    h (String.toList_eq_nil_iff.mp (escape_eq_nil_iff.mp hnil))
  have hsplit : Text.split '/' (escape name.toList) = [escape name.toList] :=
    Text.split_of_not_mem (slash_not_mem_escape _)
  rw [components, ofName, componentsOf_slash_cons hne, hsplit, List.map_singleton, unescape_escape,
    String.ofList_toList]

/-- A literal addresses the name that it is. -/
theorem components_mk {text : String} (hne : text ≠ "") (h : text.toList.head? ≠ some '/') :
    (Reference.mk text).components = [text] := by
  unfold components componentsOf
  cases hcs : text.toList with
  | nil => exact absurd (String.toList_eq_nil_iff.mp hcs) hne
  | cons c cs =>
      rw [hcs] at h
      have hc : c ≠ '/' := by simpa using h
      simp [hc]

end Reference
end FeatureFlags
