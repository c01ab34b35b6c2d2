import Listing.Proofs.Outcome
import Listing.Sql.Condition

namespace Listing.Sql

def Operand.Fits : Operand → Operator → Prop
  | none, o => o.isNullCheck = true
  | single _, o => o.isNullCheck = false ∧ o.takesList = false ∧ o ≠ .between
  | many _, o => o.takesList = true
  | range _ _, o => o = .between

inductive Shape
  | none
  | single
  | many
  | range
  deriving DecidableEq, Repr

/-- The values in an operand of the shape that is made from a value. -/
def Shape.valuesOf (v : Value) : Shape → List Value
  | none => []
  | single => [v]
  | many => v.members
  | range => v.members

def Operand.shape : Operand → Shape
  | none => .none
  | single _ => .single
  | many _ => .many
  | range _ _ => .range

def Shape.ofOperator : Operator → Shape
  | .isNull => none
  | .isNotNull => none
  | .among => many
  | .notAmong => many
  | .between => range
  | _ => single

theorem Operand.fits_iff {operand : Operand} {o : Operator} :
    operand.Fits o ↔ operand.shape = .ofOperator o := by
  cases operand <;> cases o <;>
    simp [Fits, shape, Shape.ofOperator, Operator.isNullCheck, Operator.takesList]

structure Condition.Valid (c : Condition) : Prop where
  column : isIdentifier c.column = true
  operand : c.operand.Fits c.operator

def Operand.value : Operand → Value
  | none => .null
  | single v => v
  | many vs => .list vs
  | range low high => .list [low, high]

theorem validate_eq_ok {path : String} : validate path = .ok () ↔ isIdentifier path = true := by
  unfold validate
  split
  next h => exact ⟨fun _ ↦ h, fun _ ↦ rfl⟩
  next h => exact ⟨nofun, fun h' ↦ absurd h' h⟩

theorem validate_eq_error {path : String} {e : SqlError} :
    validate path = .error e ↔ isIdentifier path = false ∧ e = .unsafeIdentifier path := by
  unfold validate
  cases isIdentifier path with
  | true => simp
  | false => simp [eq_comm]

namespace Condition

theorem shape_of_operandOf {field : String} {o : Operator} {v : Value} {operand : Operand}
    (h : operandOf field o v = .ok operand) :
    operand.shape = .ofOperator o ∧ operand.values = (Shape.ofOperator o).valuesOf v := by
  cases o <;> simp only [operandOf] at h
  case between =>
    split at h
    next =>
      cases h
      exact ⟨rfl, rfl⟩
    next => cases h
  all_goals cases h
  all_goals exact ⟨rfl, rfl⟩

theorem operandOf_value (field : String) {o : Operator} {operand : Operand} (h : operand.Fits o) :
    operandOf field o operand.value = .ok operand := by
  cases operand with
  | none => cases o <;> first | rfl | cases h
  | single v =>
    cases o <;> first | rfl | simp [Operand.Fits, Operator.isNullCheck, Operator.takesList] at h
  | many vs => cases o <;> first | rfl | cases h
  | range low high => cases h; rfl

theorem ofPredicate_eq_ok {p : Predicate} {c : Condition} : ofPredicate p = .ok c ↔
    isIdentifier p.field = true ∧ ∃ operand, operandOf p.field p.operator p.value = .ok operand ∧
      c = ⟨p.field, p.operator, operand, p.combinator⟩ := by
  unfold ofPredicate
  rw [Outcome.bind_eq_ok]
  constructor
  · rintro ⟨_, hv, h⟩
    obtain ⟨operand, ho, h⟩ := Outcome.bind_eq_ok.1 h
    exact ⟨validate_eq_ok.1 hv, operand, ho, (Except.ok.inj h).symm⟩
  · rintro ⟨hv, operand, ho, rfl⟩
    exact ⟨(), validate_eq_ok.2 hv, Outcome.bind_eq_ok.2 ⟨operand, ho, rfl⟩⟩

/-- The valid conditions are those of predicates. -/
theorem valid_iff {c : Condition} : c.Valid ↔ ∃ p, ofPredicate p = .ok c := by
  constructor
  · intro h
    exact ⟨⟨c.column, c.operator, c.operand.value, c.connector⟩,
      ofPredicate_eq_ok.2 ⟨h.column, c.operand, operandOf_value c.column h.operand, rfl⟩⟩
  · rintro ⟨p, h⟩
    obtain ⟨hf, operand, ho, rfl⟩ := ofPredicate_eq_ok.1 h
    exact ⟨hf, Operand.fits_iff.2 (shape_of_operandOf ho).1⟩

end Condition

end Listing.Sql
