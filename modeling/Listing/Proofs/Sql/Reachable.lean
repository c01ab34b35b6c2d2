import Listing.Proofs.Operation
import Listing.Proofs.Sql.Valid
import Listing.Sql.Query

namespace Listing.Operation

open Sql (Condition validate)

def sqlConditions : Operation → List Condition
  | predicate p =>
    match Condition.ofPredicate p with
    | .ok c => [c]
    | .error _ => []
  | _ => []

def sqlOrders : Operation → List (String × SortDirection)
  | order field direction =>
    match validate field with
    | .ok () => [(field, direction)]
    | .error _ => []
  | _ => []

theorem valid_of_mem_sqlConditions {o : Operation} {c : Condition} (h : c ∈ o.sqlConditions) :
    c.Valid := by
  cases o with
  | predicate p =>
    rw [sqlConditions] at h
    split at h
    next c' hc =>
      rw [List.mem_singleton.1 h]
      exact Condition.valid_iff.2 ⟨p, hc⟩
    next => cases h
  | _ => cases h

theorem isIdentifier_of_mem_sqlOrders {o : Operation} {e : String × SortDirection}
    (h : e ∈ o.sqlOrders) : Sql.isIdentifier e.1 = true := by
  cases o with
  | order field direction =>
    rw [sqlOrders] at h
    split at h
    next hv =>
      rw [List.mem_singleton.1 h]
      exact Sql.validate_eq_ok.1 hv
    next => cases h
  | _ => cases h

end Listing.Operation

namespace Listing.Sql.Query

variable {ε row : Type}

theorem addPredicate_of_operand (q : Query ε) {p : Predicate} {operand : Sql.Operand}
    (hf : isIdentifier p.field = true)
    (ho : Condition.operandOf p.field p.operator p.value = .ok operand) :
    q.addPredicate p = .ok { q with
      conditions := q.conditions ++ [⟨p.field, p.operator, operand, p.combinator⟩] } := by
  rw [addPredicate, Condition.ofPredicate_eq_ok.2 ⟨hf, operand, ho, rfl⟩]

theorem on_eq_ok {executor : ε} {table : String} {q : Query ε} (h : on executor table = .ok q) :
    isIdentifier table = true ∧ q = { executor, table } := by
  obtain ⟨_, hv, hq⟩ := Outcome.bind_eq_ok.1 h
  exact ⟨validate_eq_ok.1 hv, (Except.ok.inj hq).symm⟩

variable [Executor ε row]

theorem addTo_eq (p : Predicate) (q : Query ε) : p.addTo q = .ofStep q (q.addPredicate p) := by
  unfold Predicate.addTo
  exact rfl

theorem addOrder_eq (q : Query ε) (field : String) (d : SortDirection) :
    ClauseBuilder.addOrder q field d = .ofStep q (q.addOrder field d) := rfl

theorem addTo_of_accepted {q : Query ε} {p : Predicate} (h : (p.addTo q).result = .ok ()) :
    ∃ c, Condition.ofPredicate p = .ok c ∧
      (p.addTo q).state = { q with conditions := q.conditions ++ [c] } := by
  rw [addTo_eq, addPredicate] at h ⊢
  cases hc : Condition.ofPredicate p with
  | ok c => exact ⟨c, rfl, rfl⟩
  | error e =>
    rw [hc] at h
    cases h

theorem addOrder_of_accepted {q : Query ε} {field : String} {d : SortDirection}
    (h : (ClauseBuilder.addOrder q field d).result = .ok ()) :
    (ClauseBuilder.addOrder q field d).state = { q with orders := q.orders ++ [(field, d)] } := by
  rw [addOrder_eq, addOrder] at h ⊢
  cases hv : validate field with
  | ok u => rfl
  | error e =>
    rw [hv] at h
    cases h

theorem state_get (q : Query ε) : ∃ x, q.get.state = { q with executor := x } := by
  unfold get
  cases q.selectStatement with
  | error e => exact ⟨q.executor, rfl⟩
  | ok s => exact ⟨_, rfl⟩

theorem state_page (q : Query ε) (n : UInt32) (m : UInt64) :
    ∃ x l o, (q.page n m).state = { q with executor := x, limit := l, offset := o } := by
  unfold page
  rcases Executor.count q.executor q.countStatement with ⟨x, e | total⟩
  · exact ⟨x, q.limit, q.offset, rfl⟩
  · obtain ⟨y, hy⟩ := state_get { q with executor := x, limit := some n, offset := some m }
    dsimp only
    rw [Run.andThen_map, hy]
    exact ⟨y, some n, some m, rfl⟩

theorem state_findFirst (q : Query ε) : ∃ x, q.findFirst.state = { q with executor := x } := by
  obtain ⟨x, hx⟩ := state_get { q with limit := some 1 }
  unfold findFirst
  dsimp only
  rw [hx]
  exact ⟨x, rfl⟩

/-- The table and the clauses of a query are those of another one and these. -/
structure Extends (q' q : Query ε) (conditions : List Condition)
    (orders : List (String × SortDirection)) : Prop where
  table : q'.table = q.table
  dialect : q'.dialect = q.dialect
  conditions : q'.conditions = q.conditions ++ conditions
  orders : q'.orders = q.orders ++ orders

omit [Executor ε row] in
theorem extends_nil (q : Query ε) (x : ε) (columns : List String) (l : Option UInt32)
    (o : Option UInt64) :
    Extends { q with executor := x, columns := columns, limit := l, offset := o } q [] [] :=
  ⟨rfl, rfl, (List.append_nil _).symm, (List.append_nil _).symm⟩

theorem extends_perform (q : Query ε) (o : Operation) :
    (o.perform q).Extends q o.sqlConditions o.sqlOrders := by
  cases o with
  | predicate p =>
    simp only [Operation.perform, Operation.sqlConditions, Operation.sqlOrders,
      ClauseBuilder.addPredicate, addPredicate]
    cases Condition.ofPredicate p with
    | ok c => exact ⟨rfl, rfl, rfl, (List.append_nil _).symm⟩
    | error e => exact extends_nil q _ _ _ _
  | order field direction =>
    simp only [Operation.perform, Operation.sqlConditions, Operation.sqlOrders,
      ClauseBuilder.addOrder, addOrder]
    cases validate field with
    | ok u => exact ⟨rfl, rfl, (List.append_nil _).symm, rfl⟩
    | error e => exact extends_nil q _ _ _ _
  | get =>
    obtain ⟨x, hx⟩ := state_get q
    change q.get.state.Extends q [] []
    rw [hx]
    exact extends_nil q x _ _ _
  | page n m =>
    obtain ⟨x, l, o, hx⟩ := state_page q n m
    change (q.page n m).state.Extends q [] []
    rw [hx]
    exact extends_nil q x _ l o
  | findFirst =>
    obtain ⟨x, hx⟩ := state_findFirst q
    change q.findFirst.state.Extends q [] []
    rw [hx]
    exact extends_nil q x _ _ _
  | _ => exact extends_nil q _ _ _ _

/-- The queries that calls lead to, from a query on a table. -/
inductive Reachable : Query ε → Prop
  | on {executor : ε} {table : String} {q : Query ε} :
      Query.on executor table = .ok q → Reachable q
  | withDialect {q : Query ε} (d : Dialect) : Reachable q → Reachable { q with dialect := d }
  | perform {q : Query ε} (o : Operation) : Reachable q → Reachable (o.perform q)

structure WellFormed (q : Query ε) : Prop where
  table : isIdentifier q.table = true
  conditions : ∀ c ∈ q.conditions, c.Valid
  orders : ∀ o ∈ q.orders, isIdentifier o.1 = true

theorem WellFormed.perform {q : Query ε} (h : q.WellFormed) (o : Operation) :
    (o.perform q).WellFormed where
  table := by
    rw [(extends_perform q o).table]
    exact h.table
  conditions c hc := by
    rw [(extends_perform q o).conditions] at hc
    rcases List.mem_append.1 hc with hc | hc
    · exact h.conditions c hc
    · exact Operation.valid_of_mem_sqlConditions hc
  orders e he := by
    rw [(extends_perform q o).orders] at he
    rcases List.mem_append.1 he with he | he
    · exact h.orders e he
    · exact Operation.isIdentifier_of_mem_sqlOrders he

theorem Reachable.wellFormed {q : Query ε} (h : q.Reachable) : q.WellFormed := by
  induction h with
  | on h =>
    obtain ⟨ht, rfl⟩ := on_eq_ok h
    exact ⟨ht, nofun, nofun⟩
  | withDialect d _ ih => exact ⟨ih.table, ih.conditions, ih.orders⟩
  | perform o _ ih => exact ih.perform o

end Listing.Sql.Query
