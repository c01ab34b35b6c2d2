import Listing.Proofs.Outcome
import Listing.Recording

namespace Listing

namespace Recording

variable {α γ : Type}

def recordAll (q : Recording α) (ps : List Predicate) : Recording α :=
  { q with instructions := q.instructions ++ ps.map .predicate }

def refusal (p : Predicate) : QueryError :=
  (Problem.backend ("field '" ++ p.field ++ "' rejected")).toError

@[simp]
theorem recordAll_nil (q : Recording α) : q.recordAll [] = q := by
  simp [recordAll]

@[simp]
theorem recordAll_recordAll (q : Recording α) (ps qs : List Predicate) :
    (q.recordAll ps).recordAll qs = q.recordAll (ps ++ qs) := by
  simp [recordAll]

@[simp]
theorem refused_recordAll (q : Recording α) (ps : List Predicate) :
    (q.recordAll ps).refused = q.refused := rfl

theorem addTo_of_ne {q : Recording α} {p : Predicate} (h : q.refused ≠ some p.field) :
    p.addTo q = ⟨q.recordAll [p], .ok ()⟩ := by
  change Run.ofStep q (q.addPredicate p) = _
  rw [addPredicate, if_neg h]
  rfl

theorem addTo_of_eq {q : Recording α} {p : Predicate} (h : q.refused = some p.field) :
    p.addTo q = ⟨q, .error (refusal p)⟩ := by
  change Run.ofStep q (q.addPredicate p) = _
  rw [addPredicate, if_pos h]
  rfl

variable {step : Recording α → γ → Run (Recording α) Unit} {q : Recording α}

/-- Steps of which each records some predicates record all of them. -/
theorem each_of_records {xs : List γ} {pss : List (List Predicate)}
    (h : List.Forall₂ (fun x ps ↦ ∀ q' : Recording α, q'.refused = q.refused →
      step q' x = ⟨q'.recordAll ps, .ok ()⟩) xs pss) :
    Run.each step q xs = ⟨q.recordAll pss.flatten, .ok ()⟩ := by
  induction xs generalizing q pss with
  | nil =>
    cases h
    simp
  | cons x xs ih =>
    cases h with
    | @cons _ ps _ pss hx hxs =>
      have hr := ih (q := q.recordAll ps) hxs
      rw [Run.each, hx q rfl, Run.andThen_ok, hr, recordAll_recordAll, List.flatten_cons]

theorem each_of_records_of_error {before after : List γ} {x : γ} {pss : List (List Predicate)}
    {e : QueryError}
    (h : List.Forall₂ (fun x ps ↦ ∀ q' : Recording α, q'.refused = q.refused →
      step q' x = ⟨q'.recordAll ps, .ok ()⟩) before pss)
    (hx : ∀ q' : Recording α, q'.refused = q.refused → step q' x = ⟨q', .error e⟩) :
    Run.each step q (before ++ x :: after) = ⟨q.recordAll pss.flatten, .error e⟩ := by
  rw [Run.each_append, each_of_records h, Run.andThen_ok, Run.each,
    hx _ (refused_recordAll q _), Run.andThen_error]

theorem each_of_records_one {pred : γ → Predicate} {xs : List γ}
    (h : ∀ x ∈ xs, ∀ q' : Recording α, q'.refused = q.refused →
      step q' x = ⟨q'.recordAll [pred x], .ok ()⟩) :
    Run.each step q xs = ⟨q.recordAll (xs.map pred), .ok ()⟩ := by
  have hs : List.Forall₂ (fun x ps ↦ ∀ q' : Recording α, q'.refused = q.refused →
      step q' x = ⟨q'.recordAll ps, .ok ()⟩) xs (xs.map fun x ↦ [pred x]) := by
    rw [List.forall₂_map_right_iff, List.forall₂_same]
    exact h
  rw [each_of_records hs, ← List.flatMap_def, ← List.map_eq_flatMap]

theorem addPredicates_of_ne {ps : List Predicate} (h : ∀ p ∈ ps, q.refused ≠ some p.field) :
    addPredicates q ps = ⟨q.recordAll ps, .ok ()⟩ := by
  have hr : addPredicates q ps = ⟨q.recordAll (ps.map id), .ok ()⟩ :=
    each_of_records_one fun p hp q' hq' ↦ addTo_of_ne (hq' ▸ h p hp)
  rwa [List.map_id] at hr

end Recording

end Listing
