/-!
# Texts cut behind their leading characters

`takeWhile` and `dropWhile` cut a text behind its leading characters of a kind. The rest does not
start with such a character (`Stops`), and there is no other cut like this.

The main statement is `takeWhile_eq_and_dropWhile_eq_iff`. A reader that cuts its text in this way
is understood by it in both directions: what it takes is all of a kind and what follows stops, and
whatever is put together so is cut there again.
-/

namespace FeatureFlags
namespace Text

variable {p : Char → Bool} {cs front rest : List Char}

/-- No character of the kind stands in front. -/
def Stops (p : Char → Bool) (cs : List Char) : Prop := ∀ c ∈ cs.head?, p c = false

theorem stops_nil (p : Char → Bool) : Stops p [] := nofun

theorem stops_cons {c : Char} (h : p c = false) (cs : List Char) : Stops p (c :: cs) := by
  intro d hd
  obtain rfl : c = d := Option.some.inj hd
  exact h

theorem stops_dropWhile (p : Char → Bool) (cs : List Char) : Stops p (cs.dropWhile p) := by
  intro c hc
  have h := List.head?_dropWhile_not p cs
  rwa [show (cs.dropWhile p).head? = some c from hc] at h

theorem forall_mem_takeWhile (p : Char → Bool) (cs : List Char) :
    ∀ c ∈ cs.takeWhile p, p c = true :=
  List.all_eq_true.mp List.all_takeWhile

theorem takeWhile_eq_nil (h : Stops p cs) : cs.takeWhile p = [] := by
  cases cs with
  | nil => rfl
  | cons c cs => rw [List.takeWhile_cons, h c rfl]; rfl

theorem takeWhile_append (hfront : ∀ c ∈ front, p c = true) (hrest : Stops p rest) :
    (front ++ rest).takeWhile p = front := by
  rw [List.takeWhile_append_of_pos hfront, takeWhile_eq_nil hrest, List.append_nil]

/-- The only cut in front of which all characters are of the kind, and behind which none follows. -/
theorem takeWhile_eq_and_dropWhile_eq_iff :
    cs.takeWhile p = front ∧ cs.dropWhile p = rest
      ↔ cs = front ++ rest ∧ (∀ c ∈ front, p c = true) ∧ Stops p rest := by
  constructor
  · rintro ⟨rfl, rfl⟩
    exact ⟨List.takeWhile_append_dropWhile.symm, forall_mem_takeWhile p cs, stops_dropWhile p cs⟩
  · rintro ⟨rfl, hfront, hrest⟩
    have htake := takeWhile_append hfront hrest
    have hboth := List.takeWhile_append_dropWhile (p := p) (l := front ++ rest)
    rw [htake] at hboth
    exact ⟨htake, List.append_cancel_left hboth⟩

end Text
end FeatureFlags
