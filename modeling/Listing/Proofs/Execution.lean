import Listing.Proofs.Document.Watched
import Listing.Proofs.Sql.Clauses
import Listing.Proofs.Sql.History
import Listing.Proofs.Sql.Watched

namespace Listing

variable {ε δ row document : Type}

variable [Sql.Executor ε row] [Document.Executor δ document]

/-- If the projection of a query fails, then rows and the first row are refused before the executor
is asked for anything, and the query is as it was. A page asks for its count first, whatever the
projection: if that succeeds, its bounds are set too when the projection fails. -/
theorem only_pages_ask_before_compile_error (q : Sql.Query ε) (d : Document.Query δ) :
    (∀ e, q.selectStatement = .error e →
      e.isCompileError = true ∧
      q.watched.get = ⟨q.watched, .error e.toQueryError⟩ ∧
      q.watched.findFirst = ⟨q.watched, .error e.toQueryError⟩ ∧
      ∀ n m, q.watched.page n m =
        match Sql.Executor.count q.executor q.countStatement with
        | (x, .error e') =>
          ⟨{ q.watched with executor := ⟨x, [.count q.countStatement]⟩ }, .error e'.toQueryError⟩
        | (x, .ok _) =>
          ⟨{ q.watched with
              executor := ⟨x, [.count q.countStatement]⟩, limit := some n, offset := some m },
            .error e.toQueryError⟩) ∧
    (∀ e, d.findSpec = .error e →
      e.isInvalidField = true ∧
      d.watched.get = ⟨d.watched, .error e.toQueryError⟩ ∧
      d.watched.findFirst = ⟨d.watched, .error e.toQueryError⟩ ∧
      ∀ n m, d.watched.page n m =
        match Document.Executor.count d.executor d.filter with
        | (x, .error e') =>
          ⟨{ d.watched with executor := ⟨x, [.count d.filter]⟩ }, .error e'.toQueryError⟩
        | (x, .ok _) =>
          ⟨{ d.watched with
              executor := ⟨x, [.count d.filter]⟩, limit := some n, skip := some m },
            .error e.toQueryError⟩) := by
  constructor
  · intro e h
    have hw : q.watched.selectStatement = .error e := h
    refine ⟨Sql.Query.isCompileError_of_selectStatement h, Sql.Query.get_of_error hw,
      Sql.Query.findFirst_of_error hw, fun n m ↦ ?_⟩
    have hc : Sql.Executor.count q.watched.executor q.watched.countStatement =
        (⟨(Sql.Executor.count q.executor q.countStatement).1, [.count q.countStatement]⟩,
          (Sql.Executor.count q.executor q.countStatement).2) := rfl
    rw [Sql.Query.page_of_error hw, hc]
    rcases Sql.Executor.count q.executor q.countStatement with ⟨x, e' | total⟩ <;> rfl
  · intro e h
    have hw : d.watched.findSpec = .error e := h
    refine ⟨Document.Query.isInvalidField_of_findSpec h, Document.Query.get_of_error hw,
      Document.Query.findFirst_of_error hw, fun n m ↦ ?_⟩
    have hc : Document.Executor.count d.watched.executor d.watched.filter =
        (⟨(Document.Executor.count d.executor d.filter).1, [.count d.filter]⟩,
          (Document.Executor.count d.executor d.filter).2) := rfl
    rw [Document.Query.page_of_error hw, hc]
    rcases Document.Executor.count d.executor d.filter with ⟨x, e' | total⟩ <;> rfl

theorem only_pages_ask_before_compile_error_second_field :
    let q : Sql.Query (Script Sql.Call) :=
      { executor := { total := 23 }, table := "users", columns := ["id", "age; --"]
        limit := some 5 }
    let d : Document.Query (Script Document.Call) :=
      { executor := { failure := some .count }, projection := ["name", "$where"], skip := some 7 }
    q.selectStatement = .error (.unsafeIdentifier "age; --") ∧
    d.findSpec = .error (.invalidField "$where") ∧
    q.watched.findFirst.state.executor.calls = [] ∧
    (q.watched.page 10 20).state.executor.calls = [.count q.countStatement] ∧
    (q.watched.page 10 20).state.limit = some 10 ∧
    d.watched.get.state.executor.calls = [] ∧
    (d.watched.page 10 20).state.executor.calls = [.count d.filter] ∧
    (d.watched.page 10 20).state.skip = some 7 := by
  intro q d
  have hs : q.selectStatement = .error (.unsafeIdentifier "age; --") := rfl
  have hd : d.findSpec = .error (.invalidField "$where") := rfl
  obtain ⟨hq, hd'⟩ := only_pages_ask_before_compile_error q d
  obtain ⟨-, -, hf, hp⟩ := hq _ hs
  obtain ⟨-, hg, -, hp'⟩ := hd' _ hd
  rw [hf, hp, hg, hp']
  exact ⟨hs, hd, rfl, rfl, rfl, rfl, rfl, rfl⟩

/-- A page of a query with a column that is no identifier: the error is one of those that are raised
before anything is executed, but the rows have been counted and the query has other bounds. -/
theorem page_asks_before_compile_error :
    ∃ (q : Sql.Query (Script Sql.Call)) (d : Document.Query (Script Document.Call)),
      (q.Reachable ∧ q.limit = none ∧
        (q.page 10 20).result = .error (Sql.SqlError.unsafeIdentifier "age; --").toQueryError ∧
        q.selectStatement = .error (.unsafeIdentifier "age; --") ∧
        (q.page 10 20).state.executor.log ≠ q.executor.log ∧
        (q.page 10 20).state.limit = some 10) ∧
      d.Reachable ∧ d.limit = none ∧
        (d.page 10 20).result = .error (Document.DocumentError.invalidField "$where").toQueryError ∧
        d.findSpec = .error (.invalidField "$where") ∧
        (d.page 10 20).state.executor.log ≠ d.executor.log ∧
        (d.page 10 20).state.limit = some 10 := by
  have hon : Sql.Query.on ({} : Script Sql.Call) "users" =
      .ok { executor := {}, table := "users" } := rfl
  have hq := (Sql.Query.Reachable.on hon).perform (.select ["age; --"])
  have hd := (Document.Query.Reachable.new ({} : Script Document.Call)).perform
    (.select ["$where"])
  exact ⟨_, _, ⟨hq, rfl, rfl, rfl, nofun, rfl⟩, hd, rfl, rfl, rfl, nofun, rfl⟩

/-- The first row is asked for once, by the statement of the query with 1 as its limit, and not at
all if the projection fails. The bounds in its text leave one row behind the offset. What is returned
is the first row of the answer, and the query is as it was: given any executor, it does from then on
what it did before. -/
theorem findFirst_leaves_no_trace (q : Sql.Query ε) (d : Document.Query δ) :
    ((match q.selectStatement with
      | .error e => q.watched.findFirst = ⟨q.watched, .error e.toQueryError⟩
      | .ok _ => ∃ s rest bounds,
        ({ q with limit := some 1 } : Sql.Query ε).selectStatement = .ok s ∧
        q.unbounded.selectStatement = .ok rest ∧ s.sql = rest.sql ++ bounds ∧
        (∀ (α : Type) (rows : List α), Sql.rowsWithin? q.dialect bounds rows =
          some ((rows.drop (q.offset.getD 0).toNat).take 1)) ∧
        q.watched.findFirst =
          ⟨{ q.watched with
              executor := ⟨(Sql.Executor.fetch q.executor s).1, [.fetch s]⟩ },
            ((Sql.Executor.fetch q.executor s).2.mapError Sql.SqlError.toQueryError).map
              List.head?⟩) ∧
      q.findFirst.result = q.watched.findFirst.result ∧
      ∀ x : ε, ({ q.findFirst.state with executor := x } : Sql.Query ε) = { q with executor := x }) ∧
    (match d.findSpec with
      | .error e => d.watched.findFirst = ⟨d.watched, .error e.toQueryError⟩
      | .ok spec =>
        let first := { spec with limit := some 1 }
        d.watched.findFirst =
          ⟨{ d.watched with
              executor := ⟨(Document.Executor.find d.executor first).1, [.find first]⟩ },
            ((Document.Executor.find d.executor first).2.mapError
              Document.DocumentError.toQueryError).map List.head?⟩) ∧
      d.findFirst.result = d.watched.findFirst.result ∧
      ∀ x : δ, ({ d.findFirst.state with executor := x } : Document.Query δ) =
        { d with executor := x } := by
  constructor
  · cases h : q.selectStatement with
    | error e =>
      have hw : q.watched.selectStatement = .error e := h
      rw [Sql.Query.findFirst_of_error h, Sql.Query.findFirst_of_error hw]
      exact ⟨rfl, rfl, fun _ ↦ rfl⟩
    | ok rows =>
      obtain ⟨s, hs⟩ := Sql.Query.exists_selectStatement_limited (some 1) h
      have hw : ({ q.watched with limit := some 1 } : Sql.Query (Sql.Watched ε)).selectStatement =
        .ok s := hs
      obtain ⟨rest, hrest, hsql⟩ := Sql.Query.exists_unbounded hs
      rw [Sql.Query.findFirst_of_ok hs, Sql.Query.findFirst_of_ok hw]
      exact ⟨⟨s, rest, _, hs, hrest, hsql, fun _ _ ↦ Sql.Query.rowsWithin?_limitText _ nofun, rfl⟩,
        rfl, fun _ ↦ rfl⟩
  · cases h : d.findSpec with
    | error e =>
      have hw : d.watched.findSpec = .error e := h
      rw [Document.Query.findFirst_of_error h, Document.Query.findFirst_of_error hw]
      exact ⟨rfl, rfl, fun _ ↦ rfl⟩
    | ok spec =>
      have hw : d.watched.findSpec = .ok spec := h
      rw [Document.Query.findFirst_of_ok h, Document.Query.findFirst_of_ok hw]
      exact ⟨rfl, rfl, fun _ ↦ rfl⟩

end Listing
