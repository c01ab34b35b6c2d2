import Listing.Document.Query
import Listing.Proofs.Operation
import Listing.Proofs.Outcome
import Listing.Proofs.Predicates

namespace Listing.Document

variable {ε row : Type}

theorem validate_eq_ok {field : String} : validate field = .ok () ↔ isFieldPath field = true := by
  unfold validate
  split
  next h => exact ⟨fun _ ↦ h, fun _ ↦ rfl⟩
  next h => exact ⟨nofun, fun h' ↦ absurd h' h⟩

theorem Condition.ofPredicate_eq_ok {identifiers : Bool} {p : Predicate} {c : Condition} :
    ofPredicate identifiers p = .ok c ↔ isFieldPath p.field = true ∧ ∃ operand,
      operandOf identifiers p.field p.operator p.value = .ok operand ∧
      c = ⟨p.field, .ofOperator p.operator, operand, p.combinator⟩ := by
  unfold ofPredicate
  rw [Outcome.bind_eq_ok]
  constructor
  · rintro ⟨_, hv, h⟩
    obtain ⟨operand, ho, h⟩ := Outcome.bind_eq_ok.1 h
    exact ⟨validate_eq_ok.1 hv, operand, ho, (Except.ok.inj h).symm⟩
  · rintro ⟨hv, operand, ho, rfl⟩
    exact ⟨(), validate_eq_ok.2 hv, Outcome.bind_eq_ok.2 ⟨operand, ho, rfl⟩⟩

/-- The conditions are those of the predicates, in order, whether or not the fields were registered
for identifiers when they were added. -/
def Compiled (ps : List Predicate) (cs : List Condition) : Prop :=
  List.Forall₂ (fun p c ↦ ∃ identifiers, Condition.ofPredicate identifiers p = .ok c) ps cs

namespace Query

theorem addPredicate_of_operand (q : Query ε) {p : Predicate} {operand : Bson}
    (hf : isFieldPath p.field = true)
    (ho : Condition.operandOf (q.isIdentifierField p.field) p.field p.operator p.value =
      .ok operand) :
    q.addPredicate p = .ok { q with
      conditions := q.conditions ++ [⟨p.field, .ofOperator p.operator, operand, p.combinator⟩] } := by
  rw [addPredicate, Condition.ofPredicate_eq_ok.2 ⟨hf, operand, ho, rfl⟩]

variable [Executor ε row]

theorem state_get (q : Query ε) : ∃ x, q.get.state = { q with executor := x } := by
  unfold get
  cases q.findSpec with
  | error e => exact ⟨q.executor, rfl⟩
  | ok s => exact ⟨_, rfl⟩

theorem conditions_get (q : Query ε) : q.get.state.conditions = q.conditions := by
  obtain ⟨x, hx⟩ := state_get q
  rw [hx]

theorem conditions_page (q : Query ε) (n : UInt32) (m : UInt64) :
    (q.page n m).state.conditions = q.conditions := by
  unfold page
  rcases Executor.count q.executor q.filter with ⟨x, e | total⟩
  · rfl
  · obtain ⟨y, hy⟩ := state_get { q with executor := x, limit := some n, skip := some m }
    dsimp only
    rw [Run.andThen_map, hy]

theorem conditions_findFirst (q : Query ε) : q.findFirst.state.conditions = q.conditions := by
  obtain ⟨x, hx⟩ := state_get { q with limit := some 1 }
  unfold findFirst
  dsimp only
  rw [hx]

theorem conditions_addOrder (q : Query ε) (field : String) (direction : SortDirection) :
    (ClauseBuilder.addOrder q field direction).state.conditions = q.conditions := by
  simp only [ClauseBuilder.addOrder, addOrder]
  cases validate field <;> rfl

theorem addTo_eq (p : Predicate) (q : Query ε) : p.addTo q = .ofStep q (q.addPredicate p) := by
  unfold Predicate.addTo
  exact rfl

theorem conditions_of_accepted {q : Query ε} {p : Predicate}
    (hp : (p.addTo q).result = .ok ()) :
    ∃ c, Condition.ofPredicate (q.isIdentifierField p.field) p = .ok c ∧
      (p.addTo q).state.conditions = q.conditions ++ [c] := by
  rw [addTo_eq, addPredicate] at hp ⊢
  cases hc : Condition.ofPredicate (q.isIdentifierField p.field) p with
  | error e =>
    rw [hc] at hp
    cases hp
  | ok c => exact ⟨c, rfl, rfl⟩

theorem conditions_of_refused {q : Query ε} {p : Predicate} {e : QueryError}
    (hp : (p.addTo q).result = .error e) : (p.addTo q).state.conditions = q.conditions := by
  rw [addTo_eq] at hp ⊢
  rw [Run.state_ofStep_of_error hp]

theorem exists_conditions_added {q : Query ε} {ps : List Predicate}
    (hr : (addPredicates q ps).result = .ok ()) :
    ∃ added, Compiled ps added ∧ (addPredicates q ps).state.conditions = q.conditions ++ added := by
  refine addPredicates_induction
    (fun q' ps ↦ ∃ added, Compiled ps added ∧ q'.conditions = q.conditions ++ added)
    (fun q' ps p ⟨added, hc, hq⟩ hp ↦ ?_) [] ⟨[], .nil, (List.append_nil _).symm⟩ hr
  obtain ⟨c, hc', hq'⟩ := conditions_of_accepted hp
  refine ⟨added ++ [c], List.rel_append hc (.cons ⟨_, hc'⟩ .nil), ?_⟩
  rw [hq', hq, List.append_assoc]

/-- The queries that calls lead to, from a query without conditions. -/
inductive Reachable : Query ε → Prop
  | new (executor : ε) : Reachable { executor }
  | withIdentifierFields {q : Query ε} (fields : List String) : Reachable q →
      Reachable { q with identifierFields := q.identifierFields ++ fields }
  | perform {q : Query ε} (o : Operation) : Reachable q → Reachable (o.perform q)

theorem conditions_perform (q : Query ε) (o : Operation) :
    (o.perform q).conditions = q.conditions ∨
      ∃ identifiers p c, Condition.ofPredicate identifiers p = .ok c ∧
        (o.perform q).conditions = q.conditions ++ [c] := by
  cases o with
  | predicate p =>
    cases hp : (p.addTo q).result with
    | ok u =>
      obtain ⟨c, hc, hq⟩ := conditions_of_accepted hp
      exact .inr ⟨_, p, c, hc, hq⟩
    | error e => exact .inl (conditions_of_refused hp)
  | order field direction => exact .inl (conditions_addOrder q field direction)
  | get => exact .inl (conditions_get q)
  | page n m => exact .inl (conditions_page q n m)
  | findFirst => exact .inl (conditions_findFirst q)
  | _ => exact .inl rfl

theorem Reachable.compiled {q : Query ε} (h : q.Reachable) : ∃ ps, Compiled ps q.conditions := by
  induction h with
  | new executor => exact ⟨[], .nil⟩
  | withIdentifierFields fields _ ih => exact ih
  | @perform q o _ ih =>
    obtain ⟨ps, hps⟩ := ih
    rcases conditions_perform q o with hq | ⟨identifiers, p, c, hc, hq⟩
    · exact ⟨ps, hq ▸ hps⟩
    · exact ⟨ps ++ [p], hq ▸ List.rel_append hps (.cons ⟨identifiers, hc⟩ .nil)⟩

end Query

end Listing.Document
