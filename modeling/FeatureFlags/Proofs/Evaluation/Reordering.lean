import FeatureFlags.Proofs.Context.Reordering
import FeatureFlags.Proofs.Evaluation.Reading

/-! # The order of members does not count

Operators compare scalars only, and scalars have no members. An array counts item by item, and an
object not at all (`TakenAlike.of_reordered`). So contexts that differ only in the order of members
look alike to every flag and every segment: they are evaluated alike and have one canonical key
(`evaluateValue_of_reordered`).

That both values pass the stricter check makes them contexts as they stand. A legacy user whose key
is an object would be named by the text of that object, and in this text the order of members
shows. -/

namespace FeatureFlags

variable {v w : Json}

/-! ## Attributes

An item of an array is a scalar to an operator, or it counts for nothing, as an array in an array
does. -/

/-- An operator holds of no array. -/
theorem Operator.apply_array (op : Operator) (vs : List Json) (b : Json) :
    op.apply (.array vs) b = false := by
  unfold apply
  cases op.operand b with
  | value b => cases op <;> rfl
  | pattern m => rfl

/-- An operator holds of no object. -/
theorem Operator.apply_object (op : Operator) (ms : Entries Json) (b : Json) :
    op.apply (.object ms) b = false := by
  unfold apply
  cases op.operand b with
  | value b => cases op <;> rfl
  | pattern m => rfl

theorem Json.Reordered.apply_eq (h : v.Reordered w) (op : Operator) : op.apply v = op.apply w := by
  funext b
  cases h with
  | refl => rfl
  | array => rw [op.apply_array, op.apply_array]
  | object => rw [op.apply_object, op.apply_object]

theorem Json.Reordered.matchesValue_eq (h : v.Reordered w) (clause : Clause) :
    clause.matchesValue v = clause.matchesValue w := by
  rw [Clause.matchesValue, Clause.matchesValue, h.apply_eq]

theorem any_eq_of_forall₂ {α : Type} {R : α → α → Prop} {p : α → Bool} {xs ys : List α}
    (h : List.Forall₂ R xs ys) (hp : ∀ x y, R x y → p x = p y) : xs.any p = ys.any p := by
  induction h with
  | nil => rfl
  | cons hxy _ ih => rw [List.any_cons, List.any_cons, hp _ _ hxy, ih]

/-- Clauses and buckets do not see the order of members. -/
theorem TakenAlike.of_reordered {v? w? : Option Json} (h : Option.Rel Json.Reordered v? w?) :
    TakenAlike v? w? := by
  cases h with
  | none => exact ⟨fun _ => rfl, rfl⟩
  | some h =>
      cases h with
      | refl => exact ⟨fun _ => rfl, rfl⟩
      | array hitems =>
          refine ⟨fun clause => congrArg some ?_, rfl⟩
          exact any_eq_of_forall₂ hitems fun _ _ hitem => hitem.matchesValue_eq clause
      | object => exact ⟨fun _ => rfl, rfl⟩

/-! ## Whole evaluations

Contexts that are the same up to order look alike by everything that can be read of them. -/

theorem Context.SameUpToOrder.looksAlikeOn {c d : Context} (h : c.SameUpToOrder d)
    (r : ContextRead) : c.LooksAlikeOn d r := by
  cases r with
  | kinds => exact h.mem_kinds_iff
  | key kind => exact h.key?_eq kind
  | value kind reference =>
      exact ⟨h.isNone_part?_eq kind, .of_reordered (h.rel_value? kind reference)⟩

namespace Environment

/-- **The order of members does not count.** Contexts that differ only in the order of the members
of objects, at any depth, are evaluated to the same detail and error by the same questions, and they
have one canonical key. -/
theorem evaluateValue_of_reordered (source : Source) (policy : EventPolicy) (f : Flag) (v w : Json)
    (hv : v.Distinct) (hcv : Context.check v false = true) (hcw : Context.check w false = true)
    (h : v.Reordered w) :
    (source.environment.evaluateValue policy (some f) v).SameButEvents
        (source.environment.evaluateValue policy (some f) w) ∧
      ∃ c d, Context.ofJson v = .ok c ∧ Context.ofJson w = .ok d ∧
        c.canonicalKey = d.canonicalKey := by
  obtain ⟨-, c, hc, rfl⟩ := Context.ofJson_of_check_false hcv
  obtain ⟨-, d, hd, rfl⟩ := Context.ofJson_of_check_false hcw
  have hcd : c.SameUpToOrder d := ⟨Context.valid_of_ofJson hc, Context.valid_of_ofJson hd, hv, h⟩
  rw [evaluateValue_toJson hcd.left, evaluateValue_toJson hcd.right]
  have hevaluation := evaluateFor_of_looksAlikeOn source policy (f := f)
    (fun r _ => hcd.looksAlikeOn r) fun r _ => hcd.looksAlikeOn r
  exact ⟨hevaluation, c, d, hc, hd, hcd.canonicalKey_eq⟩

/-- The parts stand the other way round, and so do the members of each part and of an item of the
list that a rule looks through. -/
theorem evaluateValue_of_reordered_nested :
    let one : String × Json := ("one", .bool true)
    let two : String × Json := ("two", .null)
    let item (ms : Entries Json) : String × Json := ("tags", .array [.object ms, .string "x"])
    let v : Json := .object [("kind", .string "multi"),
      ("user", .object [("key", .string "u"), ("name", .string "n")]),
      ("org", .object [("key", .string "o:1"), item [one, two]])]
    let w : Json := .object [("org", .object [item [two, one], ("key", .string "o:1")]),
      ("user", .object [("name", .string "n"), ("key", .string "u")]), ("kind", .string "multi")]
    let spread : Serving := .spread ⟨.rollout, none, some ⟨"name"⟩, none, [⟨0, 50000, false⟩]⟩
    let f : Flag := { Flag.named "f" [] with
      rules := [⟨none, [⟨some "org", some ⟨"tags"⟩, .isIn, [.string "x"], false⟩], spread, false⟩] }
    let source : Source := ⟨⟨[], []⟩, fun _ => none⟩
    let e (v : Json) : Evaluation := source.environment.evaluateValue default (some f) v
    v.Distinct ∧ Context.check v false = true ∧ Context.check w false = true ∧ v.Reordered w ∧
      (e v).SameButEvents (e w) ∧ (e v).detail.reason.kind = .ruleMatch 0 none ∧
      ∃ c d, Context.ofJson v = .ok c ∧ Context.ofJson w = .ok d ∧
        c.canonicalKey = d.canonicalKey := by
  intro one two item v w spread f source e
  have hv : v.Distinct := by decide
  have hcv : Context.check v false = true := by decide
  have hcw : Context.check w false = true := by decide
  have hitem : (item [one, two]).2.Reordered (item [two, one]).2 := by
    refine .array (.cons (.object (.swap two one []) rfl ?_) (.cons (.refl _) .nil))
    exact .cons (.refl _) (.cons (.refl _) .nil)
  have huser : Json.Reordered (.object [("key", .string "u"), ("name", .string "n")])
      (.object [("name", .string "n"), ("key", .string "u")]) :=
    .object (.swap _ _ []) rfl (.cons (.refl _) (.cons (.refl _) .nil))
  have horg : Json.Reordered (.object [("key", .string "o:1"), item [one, two]])
      (.object [item [two, one], ("key", .string "o:1")]) :=
    .object (.swap _ _ []) rfl (.cons hitem (.cons (.refl _) .nil))
  have h : v.Reordered w := by
    refine .object (List.reverse_perm _).symm rfl ?_
    exact .cons horg (.cons huser (.cons (.refl _) .nil))
  obtain ⟨hevaluation, c, d, hc, hd, hkey⟩ :=
    evaluateValue_of_reordered source default f v w hv hcv hcw h
  exact ⟨hv, hcv, hcw, h, hevaluation, by decide +kernel, c, d, hc, hd, hkey⟩

end Environment
end FeatureFlags
