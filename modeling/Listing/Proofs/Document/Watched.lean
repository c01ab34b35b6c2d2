import Listing.Document.Scripted
import Listing.Proofs.Document.Reachable

namespace Listing.Document

structure Watched (ε : Type) where
  inner : ε
  calls : List Call := []

variable {ε row : Type}

instance [Executor ε row] : Executor (Watched ε) row where
  find x spec :=
    (⟨(Executor.find x.inner spec).1, x.calls ++ [.find spec]⟩, (Executor.find x.inner spec).2)
  count x filter :=
    (⟨(Executor.count x.inner filter).1, x.calls ++ [.count filter]⟩,
      (Executor.count x.inner filter).2)

theorem validate_eq_error {field : String} {e : DocumentError} :
    validate field = .error e ↔ isFieldPath field = false ∧ e = .invalidField field := by
  unfold validate
  split
  next h => simp [h]
  next h => simp [h, eq_comm]

namespace Query

def watched (q : Query ε) : Query (Watched ε) := { q with executor := { inner := q.executor } }

def bounded (q : Query ε) (limit : UInt32) (skip : UInt64) : Query ε :=
  { q with limit := some limit, skip := some skip }

def projection? (q : Query ε) : Except DocumentError (Option (List (String × Bson))) :=
  if q.projection.isEmpty then .ok none else (projectionDocument q.projection).map some

theorem findSpec_eq (q : Query ε) : q.findSpec = q.projection?.map fun projection ↦
    { filter := q.filter
      sort := if q.sorts.isEmpty then none
        else some (q.sorts.map fun s ↦ (s.1, .int32 (sortValue s.2)))
      projection
      skip := q.skip
      limit := q.limit } := by
  unfold findSpec projection?
  by_cases h : q.projection.isEmpty = true
  · rw [if_pos h, if_pos h]
    rfl
  · rw [if_neg h, if_neg h]
    cases projectionDocument q.projection <;> rfl

theorem findSpec_eq_error_iff_projection {q : Query ε} {e : DocumentError} :
    q.findSpec = .error e ↔ q.projection? = .error e := by
  rw [findSpec_eq, Outcome.map_eq_error]

theorem findSpec_withBounds (q : Query ε) (limit : Option UInt32) (skip : Option UInt64) :
    ({ q with limit, skip } : Query ε).findSpec =
      q.findSpec.map fun spec ↦ { spec with limit, skip } := by
  have hp : ({ q with limit, skip } : Query ε).projection? = q.projection? := rfl
  rw [findSpec_eq, findSpec_eq, hp]
  cases q.projection? <;> rfl

theorem findSpec_eq_error {q : Query ε} {e : DocumentError} : q.findSpec = .error e ↔
    ∃ before field after, q.projection = before ++ field :: after ∧
      (∀ f ∈ before, isFieldPath f = true) ∧ isFieldPath field = false ∧
      e = .invalidField field := by
  have hspec : q.findSpec = .error e ↔ q.projection.forM validate = .error e := by
    rw [findSpec_eq_error_iff_projection, projection?]
    split
    next h => simp [List.isEmpty_iff.1 h, pure, Except.pure]
    next =>
      rw [Outcome.map_eq_error, projectionDocument, Outcome.bind_eq_error]
      exact or_iff_left (by rintro ⟨_, -, h⟩; cases h)
  rw [hspec, Outcome.forM_eq_error]
  simp only [validate_eq_ok, validate_eq_error]

theorem isInvalidField_of_findSpec {q : Query ε} {e : DocumentError} (h : q.findSpec = .error e) :
    e.isInvalidField = true := by
  obtain ⟨_, _, _, -, -, -, rfl⟩ := findSpec_eq_error.1 h
  rfl

variable [Executor ε row]

theorem get_of_error {q : Query ε} {e : DocumentError} (h : q.findSpec = .error e) :
    q.get = ⟨q, .error e.toQueryError⟩ := by
  rw [get, h]

theorem get_of_ok {q : Query ε} {spec : FindSpec} (h : q.findSpec = .ok spec) :
    q.get = ⟨{ q with executor := (Executor.find q.executor spec).1 },
      (Executor.find q.executor spec).2.mapError DocumentError.toQueryError⟩ := by
  rw [get, h]

theorem findFirst_of_error {q : Query ε} {e : DocumentError} (h : q.findSpec = .error e) :
    q.findFirst = ⟨q, .error e.toQueryError⟩ := by
  have hp : q.projection? = .error e := findSpec_eq_error_iff_projection.1 h
  have hg := get_of_error (q := { q with limit := some 1 })
    (findSpec_eq_error_iff_projection.2 hp)
  rw [findFirst, hg]
  rfl

theorem findFirst_of_ok {q : Query ε} {spec : FindSpec} (h : q.findSpec = .ok spec) :
    q.findFirst = ⟨{ q with executor := (Executor.find q.executor { spec with limit := some 1 }).1 },
      ((Executor.find q.executor { spec with limit := some 1 }).2.mapError
        DocumentError.toQueryError).map List.head?⟩ := by
  have hs : spec.skip = q.skip := by
    rw [findSpec_eq, Outcome.map_eq_ok] at h
    obtain ⟨_, -, rfl⟩ := h
    rfl
  have hf : ({ q with limit := some 1 } : Query ε).findSpec = .ok { spec with limit := some 1 } := by
    rw [findSpec_withBounds q (some 1) q.skip, h, ← hs]
    rfl
  rw [findFirst, get_of_ok hf]

theorem page_eq (q : Query ε) (n : UInt32) (m : UInt64) :
    q.page n m = match Executor.count q.executor q.filter with
      | (x, .error e) => ⟨{ q with executor := x }, .error e.toQueryError⟩
      | (x, .ok total) =>
        let r := ({ q.bounded n m with executor := x } : Query ε).get
        ⟨r.state, r.result.map fun rows ↦ ⟨rows, total, n, m⟩⟩ := by
  unfold page
  rcases Executor.count q.executor q.filter with ⟨x, e | total⟩
  · rfl
  · exact Run.andThen_map _ _

theorem page_of_error {q : Query ε} {e : DocumentError} (h : q.findSpec = .error e) (n : UInt32)
    (m : UInt64) : q.page n m = match Executor.count q.executor q.filter with
      | (x, .error e') => ⟨{ q with executor := x }, .error e'.toQueryError⟩
      | (x, .ok _) => ⟨{ q.bounded n m with executor := x }, .error e.toQueryError⟩ := by
  have hp : q.projection? = .error e := findSpec_eq_error_iff_projection.1 h
  rw [page_eq]
  rcases Executor.count q.executor q.filter with ⟨x, e' | total⟩
  · rfl
  · have hg := get_of_error (q := { q.bounded n m with executor := x })
      (findSpec_eq_error_iff_projection.2 hp)
    dsimp only
    rw [hg]
    rfl

end Query

end Listing.Document
