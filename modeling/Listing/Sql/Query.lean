import Listing.Builder
import Listing.Sql.Condition

namespace Listing.Sql

class Executor (ε : Type) (row : outParam Type) where
  fetch : ε → Statement → ε × Except SqlError (List row)
  count : ε → Statement → ε × Except SqlError UInt64

structure Query (ε : Type) where
  executor : ε
  table : String
  dialect : Dialect := .postgres
  columns : List String := []
  conditions : List Condition := []
  orders : List (String × SortDirection) := []
  limit : Option UInt32 := none
  offset : Option UInt64 := none

namespace Query

variable {ε row : Type}

/-- A query on a table, which must be an identifier. -/
def on (executor : ε) (table : String) : Except SqlError (Query ε) := do
  validate table
  pure { executor, table }

def whereClause (q : Query ε) : Statement where
  sql := (conditionsText? q.dialect 0 q.conditions).getD ""
  params := conditionValues q.conditions

def whereText (q : Query ε) : String :=
  match conditionsText? q.dialect 0 q.conditions with
  | some s => " WHERE " ++ s
  | none => ""

def projection (q : Query ε) : Except SqlError String :=
  if q.columns.isEmpty then .ok "*"
  else do
    let quoted ← q.columns.mapM fun c ↦ do
      validate c
      pure (q.dialect.quote c)
    pure (Text.join ", " quoted)

def orderText (q : Query ε) : String :=
  if q.orders.isEmpty then ""
  else " ORDER BY " ++
    Text.join ", " (q.orders.map fun o ↦ q.dialect.quote o.1 ++ " " ++ o.2.name)

def limitText (q : Query ε) : String :=
  match q.dialect.limitClause? q.limit q.offset with
  | some s => " " ++ s
  | none => ""

/-- The statement that fetches the rows; it fails for a column that is not an identifier. -/
def selectStatement (q : Query ε) : Except SqlError Statement := do
  let projection ← q.projection
  pure {
    sql := "SELECT " ++ projection ++ " FROM " ++ q.dialect.quote q.table ++ q.whereText ++
      q.orderText ++ q.limitText
    params := conditionValues q.conditions }

/-- The statement that counts the rows, whatever the bounds of the query. -/
def countStatement (q : Query ε) : Statement where
  sql := "SELECT COUNT(*) FROM " ++ q.dialect.quote q.table ++ q.whereText
  params := conditionValues q.conditions

def addPredicate (q : Query ε) (p : Predicate) : Except QueryError (Query ε) :=
  match Condition.ofPredicate p with
  | .ok c => .ok { q with conditions := q.conditions ++ [c] }
  | .error e => .error e.toQueryError

def addOrder (q : Query ε) (field : String) (direction : SortDirection) :
    Except QueryError (Query ε) :=
  match validate field with
  | .ok () => .ok { q with orders := q.orders ++ [(field, direction)] }
  | .error e => .error e.toQueryError

variable [Executor ε row]

def get (q : Query ε) : Run (Query ε) (List row) :=
  match q.selectStatement with
  | .error e => ⟨q, .error e.toQueryError⟩
  | .ok s =>
    let (executor, answer) := Executor.fetch q.executor s
    ⟨{ q with executor }, answer.mapError SqlError.toQueryError⟩

/-- Counts all rows, then sets the bounds and fetches the rows between them. -/
def page (q : Query ε) (limit : UInt32) (offset : UInt64) : Run (Query ε) (Page row) :=
  let (executor, answer) := Executor.count q.executor q.countStatement
  match answer with
  | .error e => ⟨{ q with executor }, .error e.toQueryError⟩
  | .ok total =>
    ({ q with executor, limit := some limit, offset := some offset } : Query ε).get.andThen
      fun q rows ↦ ⟨q, .ok ⟨rows, total, limit, offset⟩⟩

/-- The first row; the bound on the result is as before afterwards. -/
def findFirst (q : Query ε) : Run (Query ε) (Option row) :=
  let r := ({ q with limit := some 1 } : Query ε).get
  ⟨{ r.state with limit := q.limit }, r.result.map List.head?⟩

instance : QueryBuilder (Query ε) row Statement where
  addPredicate q p := .ofStep q (q.addPredicate p)
  addOrder q field direction := .ofStep q (q.addOrder field direction)
  select q fields := { q with columns := fields }
  addSelect q fields := { q with columns := addMissing q.columns fields }
  limit q n := { q with limit := some n }
  offset q n := { q with offset := some n }
  get := get
  page := page
  findFirst := findFirst
  conditions := whereClause

end Query

end Listing.Sql
