import Listing.Builder
import Listing.Document.Condition

namespace Listing.Document

structure FindSpec where
  filter : List (String × Bson) := []
  sort : Option (List (String × Bson)) := none
  projection : Option (List (String × Bson)) := none
  skip : Option UInt64 := none
  limit : Option UInt32 := none

class Executor (ε : Type) (row : outParam Type) where
  find : ε → FindSpec → ε × Except DocumentError (List row)
  count : ε → List (String × Bson) → ε × Except DocumentError UInt64

structure Query (ε : Type) where
  executor : ε
  identifierFields : List String := []
  conditions : List Condition := []
  sorts : List (String × SortDirection) := []
  projection : List String := []
  skip : Option UInt64 := none
  limit : Option UInt32 := none

namespace Query

variable {ε row : Type}

def isIdentifierField (q : Query ε) (field : String) : Bool :=
  field = "_id" || "._id".toList.isSuffixOf field.toList || q.identifierFields.contains field

def filter (q : Query ε) : List (String × Bson) := filterDocument q.conditions

def projectionDocument : List String → Except DocumentError (List (String × Bson))
  | fields => do
    fields.forM validate
    pure (fields.foldl (fun d f ↦ put f (Bson.int32 1) d) [])

def findSpec (q : Query ε) : Except DocumentError FindSpec := do
  let projection ←
    if q.projection.isEmpty then pure none else some <$> projectionDocument q.projection
  pure {
    filter := q.filter
    sort := if q.sorts.isEmpty then none
      else some (q.sorts.map fun s ↦ (s.1, .int32 (sortValue s.2)))
    projection
    skip := q.skip
    limit := q.limit }

def addPredicate (q : Query ε) (p : Predicate) : Except QueryError (Query ε) :=
  match Condition.ofPredicate (q.isIdentifierField p.field) p with
  | .ok c => .ok { q with conditions := q.conditions ++ [c] }
  | .error e => .error e.toQueryError

/-- A field that is sorted by again keeps its place and gets the new direction. -/
def addOrder (q : Query ε) (field : String) (direction : SortDirection) :
    Except QueryError (Query ε) :=
  match validate field with
  | .ok () => .ok { q with sorts := put field direction q.sorts }
  | .error e => .error e.toQueryError

variable [Executor ε row]

def get (q : Query ε) : Run (Query ε) (List row) :=
  match q.findSpec with
  | .error e => ⟨q, .error e.toQueryError⟩
  | .ok spec =>
    let (executor, answer) := Executor.find q.executor spec
    ⟨{ q with executor }, answer.mapError DocumentError.toQueryError⟩

/-- Counts all documents, then sets the bounds and finds the documents between them. -/
def page (q : Query ε) (limit : UInt32) (offset : UInt64) : Run (Query ε) (Page row) :=
  let (executor, answer) := Executor.count q.executor q.filter
  match answer with
  | .error e => ⟨{ q with executor }, .error e.toQueryError⟩
  | .ok total =>
    ({ q with executor, limit := some limit, skip := some offset } : Query ε).get.andThen
      fun q rows ↦ ⟨q, .ok ⟨rows, total, limit, offset⟩⟩

/-- The first document; the bound on the result is as before afterwards. -/
def findFirst (q : Query ε) : Run (Query ε) (Option row) :=
  let r := ({ q with limit := some 1 } : Query ε).get
  ⟨{ r.state with limit := q.limit }, r.result.map List.head?⟩

instance : QueryBuilder (Query ε) row (List (String × Bson)) where
  addPredicate q p := .ofStep q (q.addPredicate p)
  addOrder q field direction := .ofStep q (q.addOrder field direction)
  select q fields := { q with projection := fields }
  addSelect q fields := { q with projection := addMissing q.projection fields }
  limit q n := { q with limit := some n }
  offset q n := { q with skip := some n }
  get := get
  page := page
  findFirst := findFirst
  conditions := filter

end Query

end Listing.Document
