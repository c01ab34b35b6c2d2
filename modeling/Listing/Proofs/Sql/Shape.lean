import Listing.Proofs.Shape
import Listing.Proofs.Sql.Valid
import Listing.Sql.Parameter

namespace Listing.Sql

namespace Condition

theorem operandOf_between_of_isScalar {v : Value} (h : v.isScalar = true) (field : String) :
    operandOf field .between v = .error (.invalidBetween field v.text) := by
  cases v <;> first | cases h; done | rfl

theorem exists_operandOf {o : Operator} {v : Value} (h : o.Takes v) (hb : o ≠ .between)
    (field : String) :
    ∃ operand, operandOf field o v = .ok operand ∧ ∀ w ∈ operand.values, w.isScalar = true := by
  cases h with
  | nothing hn => cases o <;> first | cases hn; done | exact ⟨_, rfl, nofun⟩
  | items hl hv => cases o <;> first | cases hl; done | exact ⟨_, rfl, hv⟩
  | scalar hn hl hv =>
    have hs : operandOf field o v = .ok (.single v) := by
      cases o <;> first | cases hn; done | cases hl; done | exact absurd rfl hb | rfl
    exact ⟨_, hs, List.forall_mem_singleton.2 hv⟩

theorem exists_ofPredicate {p : Predicate} (hf : isIdentifier p.field = true) (h : p.IsPlain) :
    ∃ c, ofPredicate p = .ok c ∧ ∀ v ∈ c.operand.values, v.isScalar = true := by
  obtain ⟨operand, ho, hv⟩ := exists_operandOf h.takes h.ne_between p.field
  exact ⟨_, ofPredicate_eq_ok.2 ⟨hf, operand, ho, rfl⟩, hv⟩

theorem ofPredicate_between {p : Predicate} (hf : isIdentifier p.field = true)
    (ho : p.operator = .between) (hv : p.value.isScalar = true) :
    ofPredicate p = .error (.invalidBetween p.field p.value.text) := by
  have hb := operandOf_between_of_isScalar hv p.field
  rw [ofPredicate, validate_eq_ok.2 hf, ho, hb]
  rfl

end Condition

theorem sendable_of_isScalar {v : Value} (h : v.isScalar = true) :
    sendValue v = .ok () ∧
      ∀ t, coerce? v t = typed? v t ∧ ∀ x, coerce? v t = some x → x.send = .ok () := by
  have hs : sendValue v = .ok () := by cases v <;> first | rfl | cases h
  have hc (t : ColumnType) : coerce? v t = typed? v t := by cases v <;> first | rfl | cases h
  refine ⟨hs, fun t ↦ ⟨hc t, fun x hx ↦ ?_⟩⟩
  rw [hc t] at hx
  cases t with
  | other name =>
    cases hx
    exact hs
  | text name =>
    cases hx
    rfl
  | _ =>
    obtain ⟨a, -, rfl⟩ := Option.map_eq_some_iff.1 hx
    rfl

end Listing.Sql
