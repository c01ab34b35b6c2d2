import Listing.Grouping
import Listing.Predicate
import Listing.Sql.Dialect

namespace Listing

def Operator.sql : Operator → String
  | .equal => "="
  | .diff => "<>"
  | .greater => ">"
  | .greaterOrEqual => ">="
  | .less => "<"
  | .lessOrEqual => "<="
  | .like => "LIKE"
  | .notLike => "NOT LIKE"
  | .among => "IN"
  | .notAmong => "NOT IN"
  | .isNull => "IS NULL"
  | .isNotNull => "IS NOT NULL"
  | .between => "BETWEEN"

def Operator.ofSql? (s : String) : Option Operator := Operator.all.find? fun o ↦ o.sql = s

namespace Sql

inductive Operand
  | none
  | single (v : Value)
  | many (vs : List Value)
  | range (low high : Value)

structure Condition where
  column : String
  operator : Operator
  operand : Operand
  connector : Combinator

structure Statement where
  sql : String
  params : List Value := []

def Operand.values : Operand → List Value
  | none => []
  | single v => [v]
  | many vs => vs
  | range low high => [low, high]

def placeholders (d : Dialect) (used count : Nat) : List String :=
  (List.range count).map fun k ↦ d.placeholder (used + k + 1)

namespace Condition

/-- The text of a condition after `used` placeholders. Membership in an empty list is false. -/
def text (d : Dialect) (used : Nat) (c : Condition) : String :=
  let column := d.quote c.column
  match c.operand with
  | .none => column ++ " " ++ c.operator.sql
  | .single _ => column ++ " " ++ c.operator.sql ++ " " ++ d.placeholder (used + 1)
  | .many [] => if c.operator = .notAmong then "1 = 1" else "1 = 0"
  | .many vs =>
    column ++ " " ++ c.operator.sql ++ " (" ++ Text.join ", " (placeholders d used vs.length) ++ ")"
  | .range _ _ =>
    column ++ " BETWEEN " ++ d.placeholder (used + 1) ++ " AND " ++ d.placeholder (used + 2)

/-- The shape of the operand that an operator needs, made from a value. -/
def operandOf (field : String) (operator : Operator) (value : Value) : Except SqlError Operand :=
  match operator with
  | .isNull => .ok .none
  | .isNotNull => .ok .none
  | .among => .ok (.many value.members)
  | .notAmong => .ok (.many value.members)
  | .between =>
    match value with
    | .list [low, high] => .ok (.range low high)
    | v => .error (.invalidBetween field v.text)
  | _ => .ok (.single value)

def ofPredicate (p : Predicate) : Except SqlError Condition := do
  validate p.field
  let operand ← operandOf p.field p.operator p.value
  pure { column := p.field, operator := p.operator, operand, connector := p.combinator }

end Condition

def conditionTexts (d : Dialect) : Nat → List Condition → List (Combinator × String)
  | _, [] => []
  | used, c :: r =>
    (c.connector, c.text d used) :: conditionTexts d (used + c.operand.values.length) r

def groupText : List String → String
  | [s] => s
  | ss => "(" ++ Text.join " OR " ss ++ ")"

def conditionsText? (d : Dialect) (used : Nat) (cs : List Condition) : Option String :=
  match orGroups (conditionTexts d used cs) with
  | [] => none
  | groups => some (Text.join " AND " (groups.map groupText))

def conditionValues (cs : List Condition) : List Value := cs.flatMap fun c ↦ c.operand.values

theorem conditionsText?_eq_none {d : Dialect} {used : Nat} {cs : List Condition} :
    conditionsText? d used cs = none ↔ cs = [] := by
  unfold conditionsText?
  cases cs with
  | nil => simp [conditionTexts]
  | cons c cs =>
    have hg : orGroups (conditionTexts d used (c :: cs)) ≠ [] :=
      orGroups_ne_nil (List.cons_ne_nil _ _)
    split
    next h => exact absurd h hg
    next => simp

end Sql

end Listing
