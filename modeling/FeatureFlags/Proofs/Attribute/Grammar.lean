import FeatureFlags.Proofs.Attribute.Path

/-! # Which paths are valid

The slashes of a path cut it into pieces. The path is valid exactly if in each piece every tilde is
followed by `0` or `1`, and no piece but the last one is empty (`isValid_path_iff`).

That the last piece may be empty comes from how empty pieces are found: one is seen by the two
slashes around it, and the last piece has a slash on one side only. So `/a/` is valid
(`isValid_slash_at_end`), and the second of its names is empty. Only the single slash has an empty
piece and no empty name, as it has no names at all. -/

namespace FeatureFlags
namespace Reference

variable {cs rest path piece : List Char}

/-! ## Tildes

That text is made of `~0`, `~1` and other characters (`Escaped`) is one way to say that each tilde
is escaped. To look behind each tilde (`TildesFollowed`) is another one, which does not depend on
where reading begins. -/

/-- Wherever a tilde stands in the text, `0` or `1` follows it. -/
def TildesFollowed (cs : List Char) : Prop :=
  ∀ rest, '~' :: rest <:+ cs → rest.head? = some '0' ∨ rest.head? = some '1'

theorem TildesFollowed.of_suffix (h : TildesFollowed cs) (hsuffix : rest <:+ cs) :
    TildesFollowed rest :=
  fun tail htail => h tail (htail.trans hsuffix)

/-- A tilde in front needs a `0` or `1` behind it, any other character needs nothing. -/
theorem tildesFollowed_cons {c : Char} :
    TildesFollowed (c :: cs)
      ↔ (c = '~' → cs.head? = some '0' ∨ cs.head? = some '1') ∧ TildesFollowed cs := by
  constructor
  · intro h
    refine ⟨?_, h.of_suffix (List.suffix_cons c cs)⟩
    rintro rfl
    exact h cs List.suffix_rfl
  · rintro ⟨hfront, hcs⟩ rest hsuffix
    rcases List.suffix_cons_iff.mp hsuffix with heq | hsuffix
    · obtain ⟨rfl, rfl⟩ := List.cons.inj heq
      exact hfront rfl
    · exact hcs rest hsuffix

theorem tildesFollowed_nil : TildesFollowed [] := by
  intro rest hsuffix
  cases List.suffix_nil.mp hsuffix

theorem Escaped.tildesFollowed (h : Escaped cs) : TildesFollowed cs := by
  induction h with
  | nil => exact tildesFollowed_nil
  | tilde h ih => simp [tildesFollowed_cons, ih]
  | slash h ih => simp [tildesFollowed_cons, ih]
  | plain hc h ih => simp [tildesFollowed_cons, hc, ih]

theorem Escaped.of_tildesFollowed : (cs : List Char) → TildesFollowed cs → Escaped cs
  -- A tilde takes the character behind it along, so the recursion goes on behind both.
  | [], _ => nil
  | [c], h => plain (by rintro rfl; simpa using (tildesFollowed_cons.mp h).1 rfl) nil
  | c :: d :: cs, h => by
      obtain ⟨hfront, hrest⟩ := tildesFollowed_cons.mp h
      by_cases htilde : c = '~'
      · have hcs : Escaped cs := of_tildesFollowed cs (tildesFollowed_cons.mp hrest).2
        rcases hfront htilde with hd | hd
        all_goals
          obtain rfl := Option.some.inj hd
          subst htilde
        · exact tilde hcs
        · exact slash hcs
      · exact plain htilde (of_tildesFollowed (d :: cs) hrest)

theorem escaped_iff_tildesFollowed : Escaped cs ↔ TildesFollowed cs :=
  ⟨Escaped.tildesFollowed, Escaped.of_tildesFollowed cs⟩

/-! ## Pieces

The checks run over the whole path, the names come from its pieces. -/

/-- A piece stands for the empty name only if it is empty. -/
theorem ofList_unescape_eq_iff : String.ofList (unescape piece) = "" ↔ piece = [] := by
  have hslash : unescapeSlash piece = [] ↔ piece = [] := by
    fun_cases unescapeSlash piece <;> simp
  have htilde : ∀ cs, unescapeTilde cs = [] ↔ cs = [] := by
    intro cs
    fun_cases unescapeTilde cs <;> simp
  rw [← String.toList_eq_nil_iff, String.toList_ofList, unescape, htilde, hslash]

/-- If only the last piece can be empty, an empty one shows in the text: nothing stands behind the
slash in front, or another slash stands at the end. -/
theorem nil_mem_split_iff (h : ∀ piece ∈ (Text.split '/' path).dropLast, piece ≠ []) :
    [] ∈ Text.split '/' path ↔ path = [] ∨ path.getLast? = some '/' := by
  have hne := Text.split_ne_nil '/' path
  have hfront : [] ∉ (Text.split '/' path).dropLast := fun hmem => h [] hmem rfl
  calc [] ∈ Text.split '/' path
      ↔ [] ∈ (Text.split '/' path).dropLast ++ [(Text.split '/' path).getLast hne] := by
        rw [List.dropLast_concat_getLast]
    _ ↔ [] = (Text.split '/' path).getLast hne := by
        rw [List.mem_append, or_iff_right hfront, List.mem_singleton]
    _ ↔ (Text.split '/' path).getLast? = some [] := by
        rw [List.getLast?_eq_some_getLast hne, Option.some.injEq, eq_comm]
    _ ↔ path = [] ∨ path.getLast? = some '/' := Text.getLast?_split_eq_some_nil_iff

/-- A path is valid if the tildes of its pieces are followed by what they have to, and no piece but
the last one is empty. -/
theorem isValid_path_iff :
    (Reference.mk (String.ofList ('/' :: path))).isValid = true
      ↔ (∀ piece ∈ Text.split '/' path, TildesFollowed piece) ∧
        ∀ piece ∈ (Text.split '/' path).dropLast, piece ≠ [] := by
  have hslash : ∀ piece ∈ Text.split '/' path, '/' ∉ piece := fun _ => Text.separator_not_mem
  have hempty := hasEmptyComponent_intercalate_iff hslash
  have hescaped : Escaped (['/'].intercalate (Text.split '/' path)) ↔ _ := Escaped.intercalate_iff
  -- The scans run over the whole path, which is its pieces put together again.
  rw [Text.intercalate_split] at hempty hescaped
  rw [isValid_slash_cons_iff, hempty, hescaped, and_comm]
  simp only [escaped_iff_tildesFollowed]

/-- **The grammar of valid paths.** A path is valid exactly if in each piece between its slashes
every tilde is followed by `0` or `1`, and no piece but the last one is empty. So the paths without
any empty piece are the valid ones that do not end in a second slash, and a valid path has an empty
name only as its last one, and only if it ends in a slash like that. -/
theorem isValid_iff_pieces (path : List Char) :
    let r : Reference := ⟨String.ofList ('/' :: path)⟩
    let pieces := Text.split '/' path
    (r.isValid = true
      ↔ (∀ piece ∈ pieces, TildesFollowed piece) ∧ ∀ piece ∈ pieces.dropLast, piece ≠ []) ∧
    ((path = [] ∨ ∀ piece ∈ pieces, piece ≠ [] ∧ TildesFollowed piece)
      ↔ r.isValid = true ∧ path.getLast? ≠ some '/') ∧
    (r.isValid = true → (∀ name ∈ r.components.dropLast, name ≠ "") ∧
      ("" ∈ r.components ↔ path.getLast? = some '/')) := by
  intro r pieces
  have hvalid : r.isValid = true ↔ _ := isValid_path_iff
  refine ⟨hvalid, ⟨?_, ?_⟩, fun h => ?_⟩
  · rintro (rfl | hpieces)
    · exact ⟨by decide +kernel, nofun⟩
    · have hfront : ∀ piece ∈ pieces.dropLast, piece ≠ [] := fun piece hpiece =>
        (hpieces piece (List.dropLast_subset _ hpiece)).1
      refine ⟨hvalid.mpr ⟨fun piece hpiece => (hpieces piece hpiece).2, hfront⟩, fun hlast => ?_⟩
      exact (hpieces [] ((nil_mem_split_iff hfront).mpr (.inr hlast))).1 rfl
  · rintro ⟨h, hlast⟩
    obtain ⟨htildes, hfront⟩ := hvalid.mp h
    by_cases hpath : path = []
    · exact .inl hpath
    -- An empty piece would be the last one, behind a slash at the end.
    · refine .inr fun piece hpiece => ⟨?_, htildes piece hpiece⟩
      rintro rfl
      exact ((nil_mem_split_iff hfront).mp hpiece).elim hpath hlast
  · obtain ⟨-, hfront⟩ := hvalid.mp h
    by_cases hpath : path = []
    -- A slash alone has one empty piece but no names.
    · subst hpath
      have hnone : r.components = [] := by decide +kernel
      rw [hnone]
      exact ⟨nofun, iff_of_false nofun nofun⟩
    · have hcomponents : r.components = pieces.map fun piece => String.ofList (unescape piece) :=
        componentsOf_slash_cons hpath
      rw [hcomponents, ← List.map_dropLast, List.forall_mem_map]
      constructor
      · intro piece hpiece
        exact mt ofList_unescape_eq_iff.mp (hfront piece hpiece)
      · simp only [List.mem_map, ofList_unescape_eq_iff, exists_eq_right]
        rw [nil_mem_split_iff hfront, or_iff_right hpath]

/-- A path that ends in a slash is valid, although a piece of it is empty. -/
theorem isValid_slash_at_end :
    let path := ['a', '/']
    let r : Reference := ⟨String.ofList ('/' :: path)⟩
    r.isValid = true ∧ r.components = ["a", ""] ∧
      ¬ (path = [] ∨ ∀ piece ∈ Text.split '/' path, piece ≠ [] ∧ TildesFollowed piece) := by
  intro path r
  refine ⟨by decide +kernel, by decide +kernel, ?_⟩
  rintro (hpath | hpieces)
  · exact absurd hpath (by decide)
  · exact (hpieces [] (by decide)).1 rfl

example : ["/", "/a/b", "/a~0b/c~1d", "/~01/"].all isValidText = true := by decide +kernel

example : ["//", "/a//b", "/a~2", "/a~b", "/a~", "/a~/b"].any isValidText = false := by
  decide +kernel

end Reference
end FeatureFlags
