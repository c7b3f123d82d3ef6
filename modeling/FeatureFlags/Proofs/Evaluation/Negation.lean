import FeatureFlags.Proofs.Run.Basic

/-! # Negation

A negated clause holds exactly if the clause does not, where the attribute gives the operator a
value to look at or the clause names segments (`Clause.IsAnswered`). Where it does not, neither
holds. Failures and effects are the same in both (`clauseHolds_negate`).

A value to look at is one that is neither null nor an object. An array is looked at item by item, so
an empty one gives an answer as well, though nothing in it can match. The kind always has one. -/

namespace FeatureFlags

variable {clause : Clause} {c : Context}

/-! ## Values that answer a clause

Which values these are is said of the context, and not of the evaluator. -/

def Clause.withNegate (clause : Clause) (negate : Bool) : Clause := { clause with negate := negate }

/-- The attribute is the kind, or has a value that is neither null nor an object. -/
def Clause.FindsValue (clause : Clause) (c : Context) : Prop :=
  ∃ reference, clause.reference = some reference ∧
    (reference.isKind = true ∨
      ∃ v, c.value? (clause.contextKind.getD Context.defaultKind) reference = some v ∧
        v ≠ .null ∧ ∀ members, v ≠ .object members)

/-- The clause names segments, or its attribute has a value for the operator. -/
def Clause.IsAnswered (clause : Clause) (c : Context) : Prop :=
  clause.op = .segmentMatch ∨ clause.FindsValue c

/-- Nothing but a value for the operator settles whether an attribute matches. -/
theorem Clause.isSome_matchesAttribute?_iff {found : Option Json} :
    (clause.matchesAttribute? found).isSome = true
      ↔ ∃ v, found = some v ∧ v ≠ .null ∧ ∀ members, v ≠ .object members := by
  cases found with
  | none => simp [Clause.matchesAttribute?]
  | some v => cases v <;> simp [Clause.matchesAttribute?]

/-! ## What is found before it is negated

A clause that names no segments comes to what it finds (`Clause.finding`), turned round if it is
negated. Nothing found is not the same as no match found. -/

/-- What a clause that names no segments finds; nothing if there is no value to look at. -/
def Clause.finding (clause : Clause) (c : Context) : Except EvaluationError (Option Bool) :=
  match clause.reference with
  | none => .error (.invalidReference "")
  | some reference =>
    if !reference.isValid then .error (.invalidReference reference.text)
    else if reference.isKind then
      .ok (some (c.kinds.any fun kind => clause.matchesValue (.string kind)))
    else
      let kind := clause.contextKind.getD Context.defaultKind
      .ok (clause.matchesAttribute? (c.value? kind reference))

theorem Clause.holdsFor_eq (clause : Clause) (c : Context) :
    clause.holdsFor c = (clause.finding c).map fun found => found.any (· != clause.negate) := by
  unfold holdsFor finding
  cases clause.reference with
  | none => rfl
  | some reference =>
      dsimp only
      split
      · rfl
      · split
        · rfl
        · cases clause.matchesAttribute? _ <;> rfl

theorem Clause.findsValue_iff {found : Option Bool} (h : clause.finding c = .ok found) :
    clause.FindsValue c ↔ found.isSome = true := by
  unfold finding at h
  unfold FindsValue
  split at h
  · cases h
  · next reference href =>
    simp only [href, Option.some.injEq, exists_eq_left']
    split at h
    · cases h
    · split at h
      · next hkind =>
        cases h
        simp [hkind]
      · next hkind =>
        cases h
        rw [Clause.isSome_matchesAttribute?_iff, or_iff_right hkind]

/-! ## What negation changes

Negation is applied at the end, to a match and to nothing else. -/

/-- How an outcome depends on negation: not at all if it is an error, or if nothing answers. -/
inductive Negates (answered : Prop) : (Bool → Except EvaluationError Bool) → Prop
  | fails (e : EvaluationError) : Negates answered fun _ => .error e
  | turns (b : Bool) : answered → Negates answered fun negate => .ok (b != negate)
  | unanswered : ¬ answered → Negates answered fun _ => .ok false

theorem Clause.holdsFor_negates (clause : Clause) (c : Context) :
    Negates (clause.FindsValue c) fun negate => (clause.withNegate negate).holdsFor c := by
  simp only [holdsFor_eq]
  -- What is found does not depend on negation.
  show Negates _ fun negate => (clause.finding c).map fun found => found.any (· != negate)
  cases hfinding : clause.finding c with
  | error e => exact .fails e
  | ok found =>
      have hfinds := findsValue_iff hfinding
      cases found with
      | none => exact .unanswered fun h => Bool.false_ne_true (hfinds.mp h)
      | some b => exact .turns b (hfinds.mpr rfl)

namespace Environment

open Run

/-- Whatever says which segments the context belongs to, a clause leaves the same progress negated
or not. -/
theorem exec_clauseHolds_negates (inSeg : String → Run Bool) (c : Context) (clause : Clause)
    (p : Progress) :
    ∃ outcome q, Negates (clause.IsAnswered c) outcome ∧
      ∀ negate, exec (clauseHolds inSeg c (clause.withNegate negate)) p = (outcome negate, q) := by
  unfold Clause.IsAnswered
  by_cases hop : clause.op = .segmentMatch
  · obtain ⟨r, q, hr⟩ : ∃ r q, exec ((clause.values.filterMap Json.text?).anyM inSeg) p = (r, q) :=
      ⟨_, _, rfl⟩
    have hexec (negate : Bool) : exec (clauseHolds inSeg c (clause.withNegate negate)) p =
        (r.map (· != negate), q) := by
      have hnegated : (clause.withNegate negate).op = .segmentMatch := hop
      rw [clauseHolds, if_pos hnegated]
      cases r with
      | ok matched => exact exec_bind_ok hr _
      | error e => exact exec_bind_error hr _
    refine ⟨fun negate => r.map (· != negate), q, ?_, hexec⟩
    cases r with
    | ok matched => exact .turns matched (.inl hop)
    | error e => exact .fails e
  · refine ⟨fun negate => (clause.withNegate negate).holdsFor c, p, ?_, fun negate => ?_⟩
    · rw [or_iff_right hop]
      exact clause.holdsFor_negates c
    · have hnegated : (clause.withNegate negate).op ≠ .segmentMatch := hop
      rw [clauseHolds, if_neg hnegated, exec_ofExcept]

/-- **Negation is exact.** A clause and the negated clause fail with the same error, or both
succeed; they leave the same progress, with the same queries. Of the two one holds if the clause
names segments, or tests the kind, or its attribute has a value that is neither null nor an object.
Otherwise neither holds. -/
theorem clauseHolds_negate (env : Environment) (c : Context) (path : List String) (clause : Clause)
    (p : Progress) :
    let plain := exec (clauseHolds (env.inSegment c path) c (clause.withNegate false)) p
    let negated := exec (clauseHolds (env.inSegment c path) c (clause.withNegate true)) p
    negated.2 = plain.2 ∧
      ((∃ e, plain.1 = .error e ∧ negated.1 = .error e) ∨
        ∃ b b', plain.1 = .ok b ∧ negated.1 = .ok b' ∧
          (clause.IsAnswered c → b' = !b) ∧
          (¬ clause.IsAnswered c → b = false ∧ b' = false)) := by
  intro plain negated
  obtain ⟨outcome, q, hnegates, hexec⟩ :=
    exec_clauseHolds_negates (env.inSegment c path) c clause p
  have hplain : plain = (outcome false, q) := hexec false
  have hnegated : negated = (outcome true, q) := hexec true
  rw [hplain, hnegated]
  refine ⟨rfl, ?_⟩
  cases hnegates with
  | fails e => exact .inl ⟨e, rfl, rfl⟩
  | turns b h =>
      refine .inr ⟨_, _, rfl, rfl, fun _ => ?_, fun hnot => absurd h hnot⟩
      cases b <;> rfl
  | unanswered h => exact .inr ⟨_, _, rfl, rfl, fun hyes => absurd hyes h, fun _ => ⟨rfl, rfl⟩⟩

/-- Of an editor who is an admin, and has no plan, it does not hold that the role is not admin, nor
that the plan is not paid. -/
theorem clauseHolds_negate_missing :
    let env : Environment := Source.environment ⟨⟨[], []⟩, fun _ => none⟩
    let c : Context := ⟨[("kind", .string "user"), ("key", .string "u"),
      ("roles", .array [.string "editor", .string "admin"])], false⟩
    let admin : Clause := ⟨none, some ⟨"roles"⟩, .isIn, [.string "admin"], false⟩
    let paid : Clause := ⟨none, some ⟨"plan"⟩, .isIn, [.string "paid"], false⟩
    let plain := exec (clauseHolds (env.inSegment c []) c (admin.withNegate false)) .start
    let negated := exec (clauseHolds (env.inSegment c []) c (admin.withNegate true)) .start
    let unpaid := exec (clauseHolds (env.inSegment c []) c (paid.withNegate true)) .start
    plain.1 = .ok true ∧ negated.1 = .ok false ∧ unpaid.1 = .ok false := by
  intro env c admin paid plain negated unpaid
  have hplain : plain.1 = .ok true := rfl
  have hplain' : (exec (clauseHolds (env.inSegment c []) c (paid.withNegate false)) .start).1
      = .ok false := rfl
  have hadmin : admin.IsAnswered c :=
    .inr ⟨_, rfl, .inr ⟨.array [.string "editor", .string "admin"], rfl, nofun, nofun⟩⟩
  have hpaid : ¬ paid.IsAnswered c := by
    have hfinding : paid.finding c = .ok none := rfl
    rw [Clause.IsAnswered, Clause.findsValue_iff hfinding]
    decide
  refine ⟨hplain, ?_, ?_⟩
  · obtain ⟨-, ⟨e, herror, -⟩ | ⟨b, b', hb, hb', hturned, -⟩⟩ :=
      clauseHolds_negate env c [] admin .start
    · cases hplain.symm.trans herror
    · cases hplain.symm.trans hb
      exact hb'.trans (congrArg Except.ok (hturned hadmin))
  · obtain ⟨-, ⟨e, herror, -⟩ | ⟨b, b', -, hb', -, hneither⟩⟩ :=
      clauseHolds_negate env c [] paid .start
    · cases hplain'.symm.trans herror
    · exact hb'.trans (congrArg Except.ok (hneither hpaid).2)

end Environment
end FeatureFlags
