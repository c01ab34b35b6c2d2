import Listing.Builder

namespace Listing

theorem Run.andThen_map {α β γ : Type} (r : Run β α) (f : α → γ) :
    (r.andThen fun q a ↦ ⟨q, .ok (f a)⟩) = ⟨r.state, r.result.map f⟩ := by
  rcases r with ⟨q, e | a⟩ <;> rfl

theorem Run.state_ofStep_of_error {β : Type} {q : β} {x : Except QueryError β} {e : QueryError}
    (h : (ofStep q x).result = .error e) : (ofStep q x).state = q := by
  cases x with
  | ok q' => cases h
  | error e' => rfl

inductive Operation
  | predicate (p : Predicate)
  | order (field : String) (direction : SortDirection)
  | select (fields : List String)
  | addSelect (fields : List String)
  | limit (n : UInt32)
  | offset (n : UInt64)
  | get
  | page (limit : UInt32) (offset : UInt64)
  | findFirst

namespace Operation

variable {β row conditions : Type} [QueryBuilder β row conditions]

def perform (q : β) : Operation → β
  | predicate p => (ClauseBuilder.addPredicate q p).state
  | order field direction => (ClauseBuilder.addOrder q field direction).state
  | select fields => QueryBuilder.select q fields
  | addSelect fields => QueryBuilder.addSelect q fields
  | limit n => QueryBuilder.limit q n
  | offset n => QueryBuilder.offset q n
  | get => (QueryBuilder.get q).state
  | page n m => (QueryBuilder.page q n m).state
  | findFirst => (QueryBuilder.findFirst q).state

/-- The predicate of a call that a builder does not refuse. -/
def takenPredicates (q : β) : Operation → List Predicate
  | predicate p =>
    match (ClauseBuilder.addPredicate q p).result with
    | .ok () => [p]
    | .error _ => []
  | _ => []

def takenOrders (q : β) : Operation → List (String × SortDirection)
  | order field direction =>
    match (ClauseBuilder.addOrder q field direction).result with
    | .ok () => [(field, direction)]
    | .error _ => []
  | _ => []

end Operation

end Listing
