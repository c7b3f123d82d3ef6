/-!
# Texts cut at a separator

`split` cuts a text at every place where a separator stands. There is always at least one piece, and
two separators in a row have an empty piece between them.

The main statements are `intercalate_split`, by which the pieces make up the text,
`separator_not_mem`, by which they hold no separator, and `split_intercalate`, by which pieces
without separators are what is cut again from the text that they make up.
-/

namespace FeatureFlags
namespace Text

/-- The pieces of a text between the separators. -/
def split (separator : Char) : List Char → List (List Char)
  | [] => [[]]
  | c :: cs =>
    if c = separator then [] :: split separator cs
    else
      match split separator cs with
      | [] => [[c]]
      | piece :: pieces => (c :: piece) :: pieces

theorem split_ne_nil (separator : Char) (cs : List Char) : split separator cs ≠ [] := by
  cases cs with
  | nil => simp [split]
  | cons c cs =>
    rw [split]
    split
    · simp
    · split <;> simp

/-- The pieces with the separator in between are the text. -/
theorem intercalate_split (separator : Char) (cs : List Char) :
    [separator].intercalate (split separator cs) = cs := by
  induction cs with
  | nil => rfl
  | cons c cs ih =>
    have hne := split_ne_nil separator cs
    cases hs : split separator cs with
    | nil => exact absurd hs hne
    | cons piece pieces =>
      rw [hs] at ih
      rw [split, hs]
      split
      · next hc =>
        rw [List.intercalate_cons_cons, ih, hc]
        rfl
      · cases pieces with
        | nil =>
          rw [List.intercalate_singleton] at ih ⊢
          rw [ih]
        | cons next rest =>
          rw [List.intercalate_cons_cons] at ih ⊢
          simp [← ih]

/-- No piece holds a separator. -/
theorem separator_not_mem {separator : Char} {cs piece : List Char}
    (h : piece ∈ split separator cs) : separator ∉ piece := by
  induction cs generalizing piece with
  | nil =>
    simp only [split, List.mem_singleton] at h
    simp [h]
  | cons c cs ih =>
    rw [split] at h
    split at h
    · rcases List.mem_cons.1 h with h | h
      · simp [h]
      · exact ih h
    · next hc =>
      split at h
      · next hs => exact absurd hs (split_ne_nil separator cs)
      · next first rest hs =>
        rcases List.mem_cons.1 h with h | h
        · subst h
          have hf : separator ∉ first := ih (hs ▸ List.mem_cons_self)
          simp [hf, Ne.symm hc]
        · exact ih (hs ▸ List.mem_cons_of_mem _ h)

/-- The last piece is empty if there is no text at all, or a separator at its end. -/
theorem getLast?_split_eq_some_nil_iff {separator : Char} {cs : List Char} :
    (split separator cs).getLast? = some [] ↔ cs = [] ∨ cs.getLast? = some separator := by
  induction cs with
  | nil => simp [split]
  | cons c cs ih =>
    have hnot : ∀ piece ∈ split separator cs, separator ∉ piece := fun _ => separator_not_mem
    have hback := intercalate_split separator cs
    have hne := split_ne_nil separator cs
    rw [split]
    generalize split separator cs = pieces at ih hnot hback hne
    cases pieces with
    | nil => exact absurd rfl hne
    | cons piece pieces =>
      split
      · next hc =>
        subst hc
        rw [List.getLast?_cons_cons, ih]
        cases cs <;> simp
      · next hc =>
        cases pieces with
        | nil =>
          -- There is one piece only, so the text is that piece and holds no separator.
          rw [List.intercalate_singleton] at hback
          subst hback
          have hmem : separator ∉ c :: piece := by
            simp [Ne.symm hc, hnot piece List.mem_cons_self]
          refine iff_of_false (by simp) (not_or.2 ⟨List.cons_ne_nil _ _, fun hlast => ?_⟩)
          exact hmem (List.mem_of_getLast? hlast)
        | cons next rest =>
          rw [List.getLast?_cons_cons] at ih ⊢
          rw [ih]
          cases cs with
          | nil => simp at hback
          | cons d ds => simp

/-- A text without the separator is one piece. -/
theorem split_of_not_mem {separator : Char} {cs : List Char} (h : separator ∉ cs) :
    split separator cs = [cs] := by
  induction cs with
  | nil => rfl
  | cons c cs ih =>
    obtain ⟨hc, hcs⟩ := not_or.1 (mt List.mem_cons.2 h)
    rw [split, if_neg (Ne.symm hc), ih hcs]

/-- The first separator ends the first piece. -/
theorem split_append_separator {separator : Char} {piece : List Char} (h : separator ∉ piece)
    (rest : List Char) :
    split separator (piece ++ separator :: rest) = piece :: split separator rest := by
  induction piece with
  | nil => rw [List.nil_append, split, if_pos rfl]
  | cons c cs ih =>
    obtain ⟨hc, hcs⟩ := not_or.1 (mt List.mem_cons.2 h)
    rw [List.cons_append, split, if_neg (Ne.symm hc), ih hcs]

/-- Pieces without separators are cut again from the text that they make up. -/
theorem split_intercalate {separator : Char} {pieces : List (List Char)} (hne : pieces ≠ [])
    (h : ∀ piece ∈ pieces, separator ∉ piece) :
    split separator ([separator].intercalate pieces) = pieces := by
  induction pieces with
  | nil => exact absurd rfl hne
  | cons piece pieces ih =>
    obtain ⟨hpiece, hpieces⟩ := List.forall_mem_cons.1 h
    cases pieces with
    | nil => rw [List.intercalate_singleton, split_of_not_mem hpiece]
    | cons next rest =>
      rw [List.intercalate_cons_cons, List.append_assoc, List.singleton_append,
        split_append_separator hpiece, ih (List.cons_ne_nil next rest) hpieces]

/-- Pieces with a separator in front of each are one separator in front of the text that they make
up. -/
theorem flatMap_separator_cons {separator : Char} {pieces : List (List Char)} (hne : pieces ≠ []) :
    pieces.flatMap (separator :: ·) = separator :: [separator].intercalate pieces := by
  induction pieces with
  | nil => exact absurd rfl hne
  | cons piece pieces ih =>
    cases pieces with
    | nil => rw [List.flatMap_singleton, List.intercalate_singleton]
    | cons next rest =>
      rw [List.flatMap_cons, ih (List.cons_ne_nil next rest), List.intercalate_cons_cons,
        List.append_assoc]
      rfl

/-- The text that pieces make up holds their characters, and separators. -/
theorem mem_intercalate {separator c : Char} {pieces : List (List Char)}
    (h : c ∈ [separator].intercalate pieces) : c = separator ∨ ∃ piece ∈ pieces, c ∈ piece := by
  cases pieces with
  | nil => cases h
  | cons piece pieces =>
    have hmem : c ∈ (piece :: pieces).flatMap (separator :: ·) := by
      rw [flatMap_separator_cons (List.cons_ne_nil piece pieces)]
      exact List.mem_cons_of_mem separator h
    obtain ⟨found, hfound, hc⟩ := List.mem_flatMap.1 hmem
    exact (List.mem_cons.1 hc).imp_right fun hc => ⟨found, hfound, hc⟩

/-- A piece holds characters of the text only. -/
theorem mem_of_mem_split {separator c : Char} {cs piece : List Char}
    (h : piece ∈ split separator cs) (hc : c ∈ piece) : c ∈ cs := by
  have hmem : c ∈ (split separator cs).flatMap (separator :: ·) :=
    List.mem_flatMap.2 ⟨piece, h, List.mem_cons_of_mem separator hc⟩
  rw [flatMap_separator_cons (split_ne_nil separator cs), intercalate_split] at hmem
  rcases List.mem_cons.1 hmem with rfl | hmem
  · exact absurd hc (separator_not_mem h)
  · exact hmem

end Text
end FeatureFlags
