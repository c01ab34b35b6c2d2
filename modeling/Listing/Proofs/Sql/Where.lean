import Listing.Proofs.Predicates
import Listing.Proofs.Sql.Meaning
import Listing.Proofs.Sql.Reachable

namespace Listing.Sql

variable {ε row : Type}

/-- The text asks for all of these clauses, each a choice between tests, and holds in these cases.
Without conditions there is no text. -/
def Means (d : Dialect) (sql : String) (clauses : List (List Test))
    (truth : (Nat → Bool) → Bool) : Prop :=
  sql = "" ∧ clauses = [] ∧ (∀ v, truth v = true) ∨
    ∃ e, ReadsOnly d sql e ∧ e.clauses? = some clauses ∧ ∀ v, e.truth v 0 = truth v

namespace Condition

theorem verdict_of_ofPredicate {p : Predicate} {c : Condition} (h : ofPredicate p = .ok c)
    (b : Bool) : c.verdict b = p.verdict b := by
  obtain ⟨-, operand, ho, rfl⟩ := ofPredicate_eq_ok.1 h
  rcases p with ⟨field, o, value, combinator⟩
  have hlist (vs : List Value) (o : Operator) (ho : o.takesList = true) :
      verdict ⟨field, o, .many vs, combinator⟩ b =
        if o.takesList && vs.isEmpty then decide (o = .notAmong) else b := by
    rw [ho]
    cases vs <;> rfl
  cases o <;> simp only [operandOf] at ho
  case between =>
    split at ho
    next =>
      cases ho
      rfl
    next => cases ho
  all_goals cases ho
  case among | notAmong => exact hlist value.members _ rfl
  all_goals rfl

end Condition

def Compiled (ps : List Predicate) (cs : List Condition) : Prop :=
  List.Forall₂ (fun p c ↦ Condition.ofPredicate p = .ok c) ps cs

theorem Compiled.valid {ps : List Predicate} {cs : List Condition} (h : Compiled ps cs) :
    ∀ c ∈ cs, c.Valid := by
  induction h with
  | nil => exact nofun
  | cons hp _ ih => exact List.forall_mem_cons.2 ⟨Condition.valid_iff.2 ⟨_, hp⟩, ih⟩

theorem Compiled.connectors {ps : List Predicate} {cs : List Condition} (h : Compiled ps cs) :
    cs.map Condition.connector = ps.map Predicate.combinator := by
  induction h with
  | nil => rfl
  | cons hp _ ih =>
    obtain ⟨-, operand, -, rfl⟩ := Condition.ofPredicate_eq_ok.1 hp
    rw [List.map_cons, List.map_cons, ih]

theorem Compiled.values {ps : List Predicate} {cs : List Condition} (h : Compiled ps cs)
    (v : Nat → Bool) (n : Nat) :
    (cs.zipIdx n).map (fun c ↦ (c.1.connector, c.1.verdict (v c.2))) = valuesFrom v n ps := by
  induction h generalizing n with
  | nil => rfl
  | cons hp _ ih =>
    have hv := Condition.verdict_of_ofPredicate hp (v n)
    obtain ⟨-, operand, -, rfl⟩ := Condition.ofPredicate_eq_ok.1 hp
    rw [valuesFrom, List.zipIdx_cons, List.zipIdx_cons, List.map_cons, List.map_cons, ih, hv]
    rfl

theorem exists_compiled {cs : List Condition} (h : ∀ c ∈ cs, c.Valid) : ∃ ps, Compiled ps cs := by
  induction cs with
  | nil => exact ⟨[], .nil⟩
  | cons c cs ih =>
    obtain ⟨p, hp⟩ := Condition.valid_iff.1 (h c List.mem_cons_self)
    obtain ⟨ps, hps⟩ := ih fun c hc ↦ h c (List.mem_cons_of_mem _ hc)
    exact ⟨p :: ps, .cons hp hps⟩

theorem length_conditionTests (d : Dialect) (used : Nat) (cs : List Condition) :
    (conditionTests d used cs).length = cs.length := by
  induction cs generalizing used with
  | nil => rfl
  | cons c cs ih => rw [conditionTests, List.length_cons, List.length_cons, ih]

theorem conditionTests_append (d : Dialect) (used : Nat) (cs cs' : List Condition) :
    ∃ used', conditionTests d used (cs ++ cs') =
      conditionTests d used cs ++ conditionTests d used' cs' := by
  induction cs generalizing used with
  | nil => exact ⟨used, rfl⟩
  | cons c cs ih =>
    obtain ⟨used', h⟩ := ih (used + c.operand.values.length)
    exact ⟨used', congrArg _ h⟩

theorem clauses_rendered (d : Dialect) (used : Nat) (cs : List Condition) :
    (orGroups (rendered d used cs)).map (List.map Prod.snd) =
      groupsInOrder ((cs.map Condition.connector).zip (conditionTests d used cs)) := by
  have hz : (rendered d used cs).map (fun c ↦ (c.1, c.2.2)) =
      (cs.map Condition.connector).zip (conditionTests d used cs) := by
    induction cs generalizing used with
    | nil => rfl
    | cons c cs ih =>
      rw [rendered, List.map_cons, ih]
      rfl
  rw [groupsInOrder_eq, ← hz, ← orGroups_map]

namespace Query

def clauses (q : Query ε) : List (List Test) :=
  groupsInOrder ((q.conditions.map Condition.connector).zip
    (conditionTests q.dialect 0 q.conditions))

theorem means_whereClause {q : Query ε} {ps : List Predicate} (h : Compiled ps q.conditions) :
    Means q.dialect q.whereClause.sql q.clauses fun v ↦ allHold v ps := by
  rw [whereClause, clauses, ← clauses_rendered]
  cases hs : conditionsText? q.dialect 0 q.conditions with
  | none =>
    have hq : q.conditions = [] := conditionsText?_eq_none.1 hs
    rw [hq] at h ⊢
    cases h
    exact .inl ⟨rfl, rfl, fun _ ↦ rfl⟩
  | some s =>
    obtain ⟨e, he, hc⟩ := clauses_conditionsText? h.valid hs
    refine .inr ⟨e, he, hc, fun v ↦ ?_⟩
    dsimp only
    rw [Formula.truth_of_clauses? hc, holds_rendered, h.values, allHold]

variable [Executor ε row]

theorem exists_conditions_added {q : Query ε} {ps : List Predicate}
    (hr : (addPredicates q ps).result = .ok ()) :
    ∃ added, Compiled ps added ∧ (addPredicates q ps).state.conditions = q.conditions ++ added ∧
      (addPredicates q ps).state.dialect = q.dialect := by
  refine addPredicates_induction (fun q' ps ↦ ∃ added, Compiled ps added ∧
      q'.conditions = q.conditions ++ added ∧ q'.dialect = q.dialect)
    (fun q' ps p ⟨added, hc, hq, hd⟩ hp ↦ ?_) [] ⟨[], .nil, (List.append_nil _).symm, rfl⟩ hr
  obtain ⟨c, hc', hs⟩ := addTo_of_accepted hp
  rw [hs]
  refine ⟨added ++ [c], List.rel_append hc (.cons hc' .nil), ?_, hd⟩
  rw [hq, List.append_assoc]

theorem means_addPredicates {q : Query ε} {ps qs : List Predicate} (h : Compiled ps q.conditions)
    (hr : (addPredicates q qs).result = .ok ()) :
    Means q.dialect (addPredicates q qs).state.whereClause.sql (addPredicates q qs).state.clauses
      fun v ↦ allHold v (ps ++ qs) := by
  obtain ⟨added, ha, hc, hd⟩ := exists_conditions_added hr
  have hq' : Compiled (ps ++ qs) (addPredicates q qs).state.conditions :=
    hc ▸ List.rel_append h ha
  exact hd ▸ means_whereClause hq'

/-- Clauses stay as they are if the first predicate that is added is not joined with OR. -/
theorem clauses_addPredicates {q : Query ε} {qs : List Predicate}
    (hj : (qs.map Predicate.combinator).head? ≠ some .or)
    (hr : (addPredicates q qs).result = .ok ()) :
    ∃ own, own.length = qs.length ∧ (addPredicates q qs).state.clauses =
      q.clauses ++ groupsInOrder ((qs.map Predicate.combinator).zip own) := by
  obtain ⟨added, ha, hc, hd⟩ := exists_conditions_added hr
  obtain ⟨used, ht⟩ := conditionTests_append q.dialect 0 q.conditions added
  refine ⟨conditionTests q.dialect used added,
    (length_conditionTests _ _ _).trans ha.length_eq.symm, ?_⟩
  rw [clauses, clauses, hc, hd, ht, List.map_append, ha.connectors,
    List.zip_append ((List.length_map _).trans (length_conditionTests _ _ _).symm),
    groupsInOrder_eq, groupsInOrder_eq, groupsInOrder_eq, orGroups_append _ (continues_zip hj _)]

end Query

end Listing.Sql
