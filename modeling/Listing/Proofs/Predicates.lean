import Listing.Predicate
import Listing.Proofs.Grouping

namespace Listing

namespace Predicate

/-- The value of a predicate to which `b` is assigned: nothing is in an empty list. -/
def verdict (p : Predicate) (b : Bool) : Bool :=
  if p.operator.takesList && p.value.members.isEmpty then p.operator = .notAmong else b

theorem verdict_of_takesList_eq_false {p : Predicate} (h : p.operator.takesList = false)
    (b : Bool) : p.verdict b = b := by
  simp [verdict, h]

theorem verdict_eq_self {p : Predicate} (h : p.operator.takesList = true → p.value.members ≠ [])
    (b : Bool) : p.verdict b = b := by
  cases ht : p.operator.takesList with
  | false => exact verdict_of_takesList_eq_false ht b
  | true =>
    have hm : p.value.members.isEmpty = false := List.isEmpty_eq_false_iff.2 (h ht)
    rw [verdict, hm, Bool.and_false, if_neg Bool.false_ne_true]

end Predicate

def valuesFrom (v : Nat → Bool) (n : Nat) (ps : List Predicate) : List (Combinator × Bool) :=
  (ps.zipIdx n).map fun p ↦ (p.1.combinator, p.1.verdict (v p.2))

/-- Whether predicates hold together under an assignment of truth values to their numbers. -/
def allHold (v : Nat → Bool) (ps : List Predicate) : Bool :=
  holds (groupsInOrder (valuesFrom v 0 ps))

theorem valuesFrom_append (v : Nat → Bool) (n : Nat) (ps qs : List Predicate) :
    valuesFrom v n (ps ++ qs) = valuesFrom v n ps ++ valuesFrom v (n + ps.length) qs := by
  rw [valuesFrom, List.zipIdx_append, List.map_append]
  rfl

theorem continues_valuesFrom {ps : List Predicate}
    (h : (ps.map Predicate.combinator).head? ≠ some .or) (v : Nat → Bool) (n : Nat) :
    continues (valuesFrom v n ps) = false := by
  cases ps with
  | nil => rfl
  | cons p ps =>
    rcases p with ⟨field, o, value, _ | _⟩
    · rfl
    · exact absurd rfl h

theorem mandatory_of_allHold {ps qs : List Predicate} {p : Predicate} (hp : p.combinator = .and)
    (hm : p.operator.takesList = true → p.value.members ≠ [])
    (hq : (qs.map Predicate.combinator).head? ≠ some .or) {v : Nat → Bool}
    (h : allHold v (ps ++ p :: qs) = true) : v ps.length = true := by
  have hv : valuesFrom v (0 + ps.length) (p :: qs) =
      (.and, v ps.length) :: valuesFrom v (ps.length + 1) qs := by
    rw [valuesFrom, List.zipIdx_cons, List.map_cons, Predicate.verdict_eq_self hm, hp, Nat.zero_add]
    rfl
  rw [allHold, groupsInOrder_eq, valuesFrom_append, hv] at h
  exact mandatory_of_holds (continues_valuesFrom hq v _) h

theorem valuesFrom_eq_zip {ps : List Predicate}
    (h : ∀ p ∈ ps, p.operator.takesList = true → p.value.members ≠ []) (v : Nat → Bool) (n : Nat) :
    valuesFrom v n ps =
      (ps.map Predicate.combinator).zip ((List.range' n ps.length).map v) := by
  induction ps generalizing n with
  | nil => rfl
  | cons p ps ih =>
    obtain ⟨hp, hps⟩ := List.forall_mem_cons.1 h
    rw [valuesFrom, List.zipIdx_cons, List.map_cons, Predicate.verdict_eq_self hp]
    exact congrArg _ (ih hps (n + 1))

section

variable {β : Type} [ClauseBuilder β]

theorem addPredicates_induction (invariant : β → List Predicate → Prop)
    (step : ∀ q ps p, invariant q ps → (p.addTo q).result = .ok () →
      invariant (p.addTo q).state (ps ++ [p]))
    {q : β} (ps : List Predicate) {qs : List Predicate} (h : invariant q ps)
    (hr : (addPredicates q qs).result = .ok ()) : invariant (addPredicates q qs).state (ps ++ qs) := by
  induction qs generalizing q ps with
  | nil =>
    rw [List.append_nil]
    exact h
  | cons p qs ih =>
    unfold addPredicates at hr ⊢
    rw [Run.each] at hr ⊢
    have hp := step q ps p h
    rcases hadd : p.addTo q with ⟨q', e | u⟩
    · rw [hadd] at hr
      cases hr
    · rw [hadd] at hr hp
      rw [Run.andThen_ok] at hr ⊢
      have ht := ih _ (hp rfl) hr
      rwa [List.append_assoc] at ht

end

end Listing
