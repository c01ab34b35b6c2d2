import Listing.Proofs.Operation
import Listing.Proofs.Outcome
import Listing.Sql.Scripted

namespace Listing.Sql

structure Watched (ε : Type) where
  inner : ε
  calls : List Call := []

variable {ε row : Type}

instance [Executor ε row] : Executor (Watched ε) row where
  fetch x s :=
    (⟨(Executor.fetch x.inner s).1, x.calls ++ [.fetch s]⟩, (Executor.fetch x.inner s).2)
  count x s :=
    (⟨(Executor.count x.inner s).1, x.calls ++ [.count s]⟩, (Executor.count x.inner s).2)

namespace Query

def watched (q : Query ε) : Query (Watched ε) := { q with executor := { inner := q.executor } }

def unwatched (q : Query (Watched ε)) : Query ε := { q with executor := q.executor.inner }

def bounded (q : Query ε) (limit : UInt32) (offset : UInt64) : Query ε :=
  { q with limit := some limit, offset := some offset }

theorem selectStatement_eq_error_iff_projection {q : Query ε} {e : SqlError} :
    q.selectStatement = .error e ↔ q.projection = .error e := by
  rw [selectStatement, Outcome.bind_pure_eq_map, Outcome.map_eq_error]

theorem exists_selectStatement_limited {q : Query ε} (limit : Option UInt32) {s : Statement}
    (h : q.selectStatement = .ok s) :
    ∃ s', ({ q with limit } : Query ε).selectStatement = .ok s' := by
  rw [selectStatement, Outcome.bind_pure_eq_map, Outcome.map_eq_ok] at h
  obtain ⟨p, hp, -⟩ := h
  rw [selectStatement, Outcome.bind_pure_eq_map]
  exact ⟨_, Outcome.map_eq_ok.2 ⟨p, hp, rfl⟩⟩

variable [Executor ε row]

theorem get_of_error {q : Query ε} {e : SqlError} (h : q.selectStatement = .error e) :
    q.get = ⟨q, .error e.toQueryError⟩ := by
  rw [get, h]

theorem get_of_ok {q : Query ε} {s : Statement} (h : q.selectStatement = .ok s) :
    q.get = ⟨{ q with executor := (Executor.fetch q.executor s).1 },
      (Executor.fetch q.executor s).2.mapError SqlError.toQueryError⟩ := by
  rw [get, h]

theorem findFirst_of_error {q : Query ε} {e : SqlError} (h : q.selectStatement = .error e) :
    q.findFirst = ⟨q, .error e.toQueryError⟩ := by
  have hp : q.projection = .error e := selectStatement_eq_error_iff_projection.1 h
  have hg := get_of_error (q := { q with limit := some 1 })
    (selectStatement_eq_error_iff_projection.2 hp)
  rw [findFirst, hg]
  rfl

theorem findFirst_of_ok {q : Query ε} {s : Statement}
    (h : ({ q with limit := some 1 } : Query ε).selectStatement = .ok s) :
    q.findFirst = ⟨{ q with executor := (Executor.fetch q.executor s).1 },
      ((Executor.fetch q.executor s).2.mapError SqlError.toQueryError).map List.head?⟩ := by
  rw [findFirst, get_of_ok h]

theorem result_get_unwatched (q : Query (Watched ε)) :
    q.get.result = q.unwatched.get.result := by
  have hs : q.unwatched.selectStatement = q.selectStatement := rfl
  unfold get
  rw [hs]
  cases q.selectStatement <;> rfl

theorem calls_get (q : Query (Watched ε)) :
    (∃ e, q.selectStatement = .error e ∧ q.get = ⟨q, .error e.toQueryError⟩) ∨
      ∃ s, q.selectStatement = .ok s ∧
        q.get.state.executor.calls = q.executor.calls ++ [.fetch s] := by
  unfold get
  cases q.selectStatement with
  | error e => exact .inl ⟨e, rfl, rfl⟩
  | ok s => exact .inr ⟨s, rfl, rfl⟩

theorem page_eq (q : Query ε) (n : UInt32) (m : UInt64) :
    q.page n m = match Executor.count q.executor q.countStatement with
      | (x, .error e) => ⟨{ q with executor := x }, .error e.toQueryError⟩
      | (x, .ok total) =>
        let r := ({ q.bounded n m with executor := x } : Query ε).get
        ⟨r.state, r.result.map fun rows ↦ ⟨rows, total, n, m⟩⟩ := by
  unfold page
  rcases Executor.count q.executor q.countStatement with ⟨x, e | total⟩
  · rfl
  · exact Run.andThen_map _ _

theorem page_of_error {q : Query ε} {e : SqlError} (h : q.selectStatement = .error e) (n : UInt32)
    (m : UInt64) : q.page n m = match Executor.count q.executor q.countStatement with
      | (x, .error e') => ⟨{ q with executor := x }, .error e'.toQueryError⟩
      | (x, .ok _) => ⟨{ q.bounded n m with executor := x }, .error e.toQueryError⟩ := by
  have hp : q.projection = .error e := selectStatement_eq_error_iff_projection.1 h
  rw [page_eq]
  rcases Executor.count q.executor q.countStatement with ⟨x, e' | total⟩
  · rfl
  · have hg := get_of_error (q := { q.bounded n m with executor := x })
      (selectStatement_eq_error_iff_projection.2 hp)
    dsimp only
    rw [hg]
    rfl

theorem result_page_unwatched (q : Query (Watched ε)) (n : UInt32) (m : UInt64) :
    (q.page n m).result = (q.unwatched.page n m).result := by
  have hc : Executor.count q.executor q.countStatement =
      (⟨(Executor.count q.executor.inner q.unwatched.countStatement).1,
        q.executor.calls ++ [.count q.countStatement]⟩,
        (Executor.count q.executor.inner q.unwatched.countStatement).2) := rfl
  have hi : q.unwatched.executor = q.executor.inner := rfl
  rw [page_eq, page_eq, hc, hi]
  rcases Executor.count q.executor.inner q.unwatched.countStatement with ⟨x, e | total⟩
  · rfl
  · dsimp only
    rw [result_get_unwatched]
    rfl

/-- The statements of a page: the count, and then, unless the count or the projection fails, the
rows. -/
theorem calls_page (q : Query (Watched ε)) (n : UInt32) (m : UInt64) :
    ((∃ e, (q.page n m).result = .error e) ∧
      (q.page n m).state.executor.calls = q.executor.calls ++ [.count q.countStatement]) ∨
    ∃ s, (q.bounded n m).selectStatement = .ok s ∧ (q.page n m).state.executor.calls =
      q.executor.calls ++ [.count q.countStatement, .fetch s] := by
  rw [page_eq]
  have hc : (Executor.count q.executor q.countStatement).1.calls =
    q.executor.calls ++ [.count q.countStatement] := rfl
  revert hc
  rcases Executor.count q.executor q.countStatement with ⟨x, e | total⟩ <;> intro hc
  · exact .inl ⟨⟨_, rfl⟩, hc⟩
  · rcases calls_get ({ q.bounded n m with executor := x } : Query (Watched ε)) with
      ⟨e, he, hg⟩ | ⟨s, hs, hg⟩
    · dsimp only
      rw [hg]
      exact .inl ⟨⟨_, rfl⟩, hc⟩
    · refine .inr ⟨s, hs, hg.trans ?_⟩
      dsimp only at hc
      rw [hc, List.append_assoc]
      rfl

end Query

end Listing.Sql
