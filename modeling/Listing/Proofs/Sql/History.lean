import Listing.Proofs.Sql.Watched
import Listing.Proofs.Sql.Where

namespace Listing.Sql

namespace Condition

structure AskedBy (c : Condition) (p : Predicate) : Prop where
  column : c.column = p.field
  operator : c.operator = p.operator
  connector : c.connector = p.combinator
  shape : c.operand.shape = .ofOperator p.operator
  values : c.operand.values = (Shape.ofOperator p.operator).valuesOf p.value

theorem askedBy_of_ofPredicate {p : Predicate} {c : Condition} (h : ofPredicate p = .ok c) :
    c.AskedBy p := by
  obtain ⟨-, operand, ho, rfl⟩ := ofPredicate_eq_ok.1 h
  obtain ⟨hs, hv⟩ := shape_of_operandOf ho
  exact ⟨rfl, rfl, rfl, hs, hv⟩

end Condition

namespace Query

variable {ε row : Type}

def columnText (d : Dialect) (column : String) : Except SqlError String :=
  (validate column).map fun _ ↦ d.quote column

theorem columnText_eq_ok {d : Dialect} {column s : String} :
    columnText d column = .ok s ↔ isIdentifier column = true ∧ d.quote column = s := by
  rw [columnText, Outcome.map_eq_ok]
  constructor
  · rintro ⟨_, hv, hs⟩
    exact ⟨validate_eq_ok.1 hv, hs⟩
  · rintro ⟨hv, hs⟩
    exact ⟨(), validate_eq_ok.2 hv, hs⟩

theorem columnText_eq_error {d : Dialect} {column : String} {e : SqlError} :
    columnText d column = .error e ↔ isIdentifier column = false ∧ e = .unsafeIdentifier column :=
  Outcome.map_eq_error.trans validate_eq_error

theorem selectStatement_eq_error {q : Query ε} {e : SqlError} : q.selectStatement = .error e ↔
    ∃ before column after, q.columns = before ++ column :: after ∧
      (∀ c ∈ before, isIdentifier c = true) ∧ isIdentifier column = false ∧
      e = .unsafeIdentifier column := by
  have hstatement : q.selectStatement = .error e ↔
      q.columns.mapM (columnText q.dialect) = .error e := by
    rw [selectStatement_eq_error_iff_projection, projection]
    simp only [Outcome.bind_pure_eq_map]
    split
    next h => simp [List.isEmpty_iff.1 h, pure, Except.pure]
    next => exact Outcome.map_eq_error
  rw [hstatement, Outcome.mapM_eq_error]
  simp only [columnText_eq_ok, columnText_eq_error, List.forall₂_and_left]
  constructor
  · rintro ⟨before, column, after, texts, hc, ⟨hb, -⟩, he⟩
    exact ⟨before, column, after, hc, hb, he⟩
  · rintro ⟨before, column, after, hc, hb, he⟩
    refine ⟨before, column, after, before.map q.dialect.quote, hc, ⟨hb, ?_⟩, he⟩
    exact List.forall₂_map_right_iff.2 (List.forall₂_same.2 fun _ _ ↦ rfl)

theorem isCompileError_of_selectStatement {q : Query ε} {e : SqlError}
    (h : q.selectStatement = .error e) : e.isCompileError = true := by
  obtain ⟨_, _, _, -, -, -, rfl⟩ := selectStatement_eq_error.1 h
  rfl

variable [Executor ε row]

theorem compiled_takenPredicates (q : Query ε) (o : Operation) :
    Compiled (o.takenPredicates q) o.sqlConditions := by
  cases o with
  | predicate p =>
    rw [Operation.takenPredicates, Operation.sqlConditions, ← Predicate.addTo, addTo_eq,
      addPredicate]
    cases hc : Condition.ofPredicate p with
    | ok c => exact .cons hc .nil
    | error e => exact .nil
  | _ => exact .nil

theorem takenOrders_eq (q : Query ε) (o : Operation) : o.takenOrders q = o.sqlOrders := by
  cases o with
  | order field direction =>
    rw [Operation.takenOrders, Operation.sqlOrders, addOrder_eq, addOrder]
    cases validate field <;> rfl
  | _ => rfl

/-- The queries that calls lead to, with the predicates and the orders of the calls that were not
refused. -/
inductive History : Query ε → List Predicate → List (String × SortDirection) → Prop
  | on {executor : ε} {table : String} {q : Query ε} :
      Query.on executor table = .ok q → History q [] []
  | withDialect {q : Query ε} {ps : List Predicate} {os : List (String × SortDirection)}
      (d : Dialect) : History q ps os → History { q with dialect := d } ps os
  | perform {q : Query ε} {ps : List Predicate} {os : List (String × SortDirection)}
      (o : Operation) : History q ps os →
        History (o.perform q) (ps ++ o.takenPredicates q) (os ++ o.takenOrders q)

variable {q : Query ε} {ps : List Predicate} {os : List (String × SortDirection)}

theorem History.reachable (h : q.History ps os) : q.Reachable := by
  induction h with
  | on h => exact .on h
  | withDialect d _ ih => exact .withDialect d ih
  | perform o _ ih => exact .perform o ih

theorem History.clauses (h : q.History ps os) : Compiled ps q.conditions ∧ q.orders = os := by
  induction h with
  | on h =>
    obtain ⟨-, rfl⟩ := on_eq_ok h
    exact ⟨.nil, rfl⟩
  | withDialect _ _ ih => exact ih
  | @perform q ps os o _ ih =>
    have he := extends_perform q o
    rw [he.conditions, he.orders, ih.2, takenOrders_eq]
    exact ⟨List.rel_append ih.1 (compiled_takenPredicates q o), rfl⟩

/-- Whatever calls have led to a query, and however they ended: its names are identifiers, operands
have the shapes of their operators, and its conditions and orders are those of the calls that were
not refused. A refused call leaves the query as it is, and what a select statement fails for is a
column that is selected. -/
theorem History.invariant (h : q.History ps os) :
    isIdentifier q.table = true ∧
    (∀ c ∈ q.conditions, isIdentifier c.column = true ∧ c.operand.shape = .ofOperator c.operator) ∧
    (∀ o ∈ q.orders, isIdentifier o.1 = true) ∧
    List.Forall₂ Condition.AskedBy q.conditions ps ∧ q.orders = os ∧
    (∀ (p : Predicate) (e : QueryError), (p.addTo q).result = .error e → (p.addTo q).state = q) ∧
    (∀ (field : String) (d : SortDirection) (e : QueryError),
      (ClauseBuilder.addOrder q field d).result = .error e →
      (ClauseBuilder.addOrder q field d).state = q) ∧
    ∀ e, q.selectStatement = .error e ↔
      ∃ before column after, q.columns = before ++ column :: after ∧
        (∀ c ∈ before, isIdentifier c = true) ∧ isIdentifier column = false ∧
        e = .unsafeIdentifier column := by
  have hw := h.reachable.wellFormed
  obtain ⟨hc, ho⟩ := h.clauses
  refine ⟨hw.table, fun c hm ↦ ⟨(hw.conditions c hm).column, ?_⟩, hw.orders, ?_, ho, ?_, ?_,
    fun e ↦ selectStatement_eq_error⟩
  · exact Operand.fits_iff.1 (hw.conditions c hm).operand
  · exact hc.flip.imp fun _ _ ↦ Condition.askedBy_of_ofPredicate
  · intro p e he
    rw [addTo_eq] at he ⊢
    exact Run.state_ofStep_of_error he
  · intro field d e he
    rw [addOrder_eq] at he ⊢
    exact Run.state_ofStep_of_error he

theorem History.invariant_with_failed_calls :
    ∃ (q : Query (Script Call)) (ps : List Predicate) (os : List (String × SortDirection)),
      q.History ps os ∧ ps.map Predicate.field = ["age", "role"] ∧ os = [("age", .desc)] ∧
      q.limit = some 10 ∧ List.Forall₂ Condition.AskedBy q.conditions ps ∧
      q.selectStatement = .error (.unsafeIdentifier "age; --") := by
  have hon : Query.on ({ failure := some .fetch } : Script Call) "users" =
      .ok { executor := { failure := some .fetch }, table := "users" } := rfl
  have hage := (History.on hon).perform (.predicate (.and "age" .between (.list [.int 1, .int 2])))
  have hname := hage.perform (.predicate (.and "age or 1" .equal (.int 1)))
  have hbounds := hname.perform (.predicate (.and "age" .between (.list [.int 18])))
  have hrole := hbounds.perform (.predicate (.or "role" .among .null))
  have horder := (hrole.perform (.order "age" .desc)).perform (.order "1st" .asc)
  have hpage := (horder.perform (.page 10 0)).perform (.select ["id", "age; --"])
  have hq := (hpage.perform .get).perform .findFirst
  obtain ⟨-, -, -, hc, -, -, -, hs⟩ := hq.invariant
  refine ⟨_, _, _, hq, by decide +kernel, by decide +kernel, by decide +kernel, hc,
    (hs _).2 ⟨["id"], "age; --", [], by decide +kernel, ?_, by decide, rfl⟩⟩
  exact List.forall_mem_singleton.2 (by decide)

end Query

end Listing.Sql
