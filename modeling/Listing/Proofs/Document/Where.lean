import Listing.Proofs.Document.Reachable
import Listing.Proofs.Document.Selector

namespace Listing.Document

variable {ε row : Type}

/-- The filter document asks for all of these clauses, each a condition or a choice between at least
two, and holds in these cases. -/
def Means (filter : List (String × Bson)) (clauses : List (List (String × Bson)))
    (truth : (Nat → Bool) → Bool) : Prop :=
  ∃ s, Selector.ofDocument? filter = some s ∧ s.clauses? = some clauses ∧ ∀ v, s.truth v 0 = truth v

namespace Condition

theorem verdict_of_ofPredicate {identifiers : Bool} {p : Predicate} {c : Condition}
    (h : ofPredicate identifiers p = .ok c) (b : Bool) :
    Selector.verdict c.entry.2 b = p.verdict b := by
  obtain ⟨-, operand, ho, rfl⟩ := ofPredicate_eq_ok.1 h
  rcases p with ⟨field, o, value, combinator⟩
  have hkey (o : FieldOperator) (h : o ≠ .among) (h' : o ≠ .notAmong) (operand : Bson) :
      Selector.verdict (.document [(o.key, operand)]) b = b := by
    unfold Selector.verdict
    split
    next he =>
      cases he
      rw [if_neg (by revert h h'; cases o <;> decide), if_neg (by revert h h'; cases o <;> decide)]
    next => rfl
  have hlist (o : FieldOperator) (vs : List Value) :
      Selector.verdict (.document [(o.key, .array (bsonsOf identifiers vs))]) b =
        if vs.isEmpty then Selector.verdict (.document [(o.key, .array [])]) b else b := by
    cases vs <;> rfl
  cases hl : o.takesList with
  | false =>
    rw [Predicate.verdict_of_takesList_eq_false hl]
    exact hkey (.ofOperator o) (by revert hl; cases o <;> decide) (by revert hl; cases o <;> decide)
      operand
  | true =>
    cases o <;> cases hl
    all_goals
      cases ho
      exact hlist _ value.members

end Condition

theorem Compiled.isFieldPath {ps : List Predicate} {cs : List Condition} (h : Compiled ps cs) :
    ∀ c ∈ cs, isFieldPath c.field = true := by
  induction h with
  | nil => exact nofun
  | cons hp _ ih =>
    obtain ⟨identifiers, hp⟩ := hp
    obtain ⟨hf, operand, -, rfl⟩ := Condition.ofPredicate_eq_ok.1 hp
    exact List.forall_mem_cons.2 ⟨hf, ih⟩

theorem Compiled.connectors {ps : List Predicate} {cs : List Condition} (h : Compiled ps cs) :
    cs.map Condition.connector = ps.map Predicate.combinator := by
  induction h with
  | nil => rfl
  | cons hp _ ih =>
    obtain ⟨identifiers, hp⟩ := hp
    obtain ⟨-, operand, -, rfl⟩ := Condition.ofPredicate_eq_ok.1 hp
    rw [List.map_cons, List.map_cons, ih]

theorem Compiled.values {ps : List Predicate} {cs : List Condition} (h : Compiled ps cs)
    (v : Nat → Bool) (n : Nat) :
    (cs.zipIdx n).map (fun c ↦ (c.1.connector, Selector.value v (c.1.entry, c.2))) =
      valuesFrom v n ps := by
  induction h generalizing n with
  | nil => rfl
  | cons hp _ ih =>
    obtain ⟨identifiers, hp⟩ := hp
    have hv := Condition.verdict_of_ofPredicate hp (v n)
    obtain ⟨-, operand, -, rfl⟩ := Condition.ofPredicate_eq_ok.1 hp
    rw [valuesFrom, List.zipIdx_cons, List.zipIdx_cons, List.map_cons, List.map_cons, ih,
      Selector.value, hv]
    rfl

namespace Query

def clauses (q : Query ε) : List (List (String × Bson)) :=
  groupsInOrder ((q.conditions.map Condition.connector).zip (q.conditions.map Condition.entry))

theorem means_filter {q : Query ε} {ps : List Predicate} (h : Compiled ps q.conditions) :
    Means q.filter q.clauses fun v ↦ allHold v ps := by
  obtain ⟨s, hs, hc⟩ := Selector.reads_filterDocument h.isFieldPath
  rw [clauses, List.zip_map', groupsInOrder_eq]
  refine ⟨s, hs, hc, fun v ↦ ?_⟩
  have hz : (q.conditions.map fun c ↦ (c.connector, c.entry)).zipIdx.map
      (fun c ↦ (c.1.1, Selector.value v (c.1.2, c.2))) = valuesFrom v 0 ps := by
    rw [List.zipIdx_map, List.map_map, ← h.values]
    rfl
  rw [Selector.truth_of_clauses? hc, ← orGroups_zipIdx, ← holds_orGroups_map, List.map_map]
  dsimp only [Function.comp_def]
  rw [hz, allHold, groupsInOrder_eq]

variable [Executor ε row]

theorem means_addPredicates {q : Query ε} {ps qs : List Predicate} (h : Compiled ps q.conditions)
    (hr : (addPredicates q qs).result = .ok ()) :
    Means (addPredicates q qs).state.filter (addPredicates q qs).state.clauses
      fun v ↦ allHold v (ps ++ qs) := by
  obtain ⟨added, ha, hc⟩ := exists_conditions_added hr
  have hq' : Compiled (ps ++ qs) (addPredicates q qs).state.conditions :=
    hc ▸ List.rel_append h ha
  exact means_filter hq'

theorem clauses_addPredicates {q : Query ε} {qs : List Predicate}
    (hj : (qs.map Predicate.combinator).head? ≠ some .or)
    (hr : (addPredicates q qs).result = .ok ()) :
    ∃ own, own.length = qs.length ∧ (addPredicates q qs).state.clauses =
      q.clauses ++ groupsInOrder ((qs.map Predicate.combinator).zip own) := by
  obtain ⟨added, ha, hc⟩ := exists_conditions_added hr
  refine ⟨added.map Condition.entry, (List.length_map _).trans ha.length_eq.symm, ?_⟩
  rw [clauses, clauses, hc, List.map_append, List.map_append, ha.connectors,
    List.zip_append ((List.length_map _).trans (List.length_map _).symm),
    groupsInOrder_eq, groupsInOrder_eq, groupsInOrder_eq, orGroups_append _ (continues_zip hj _)]

end Query

end Listing.Document
