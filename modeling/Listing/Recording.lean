import Listing.Builder

namespace Listing

inductive Instruction
  | predicate (p : Predicate)
  | orderBy (field : String) (direction : SortDirection)
  | select (fields : List String)
  | addSelect (fields : List String)
  | limit (n : UInt32)
  | offset (n : UInt64)

structure Recording (α : Type) where
  instructions : List Instruction := []
  rows : List α := []
  refused : Option String := none

namespace Recording

variable {α : Type}

def record (q : Recording α) (i : Instruction) : Recording α :=
  { q with instructions := q.instructions ++ [i] }

def predicates (q : Recording α) : List Predicate :=
  q.instructions.filterMap fun
    | .predicate p => some p
    | _ => none

def orders (q : Recording α) : List (String × SortDirection) :=
  q.instructions.filterMap fun
    | .orderBy field direction => some (field, direction)
    | _ => none

def addPredicate (q : Recording α) (p : Predicate) : Except QueryError (Recording α) :=
  if q.refused = some p.field then
    .error (Problem.backend ("field '" ++ p.field ++ "' rejected")).toError
  else .ok (q.record (.predicate p))

def page (q : Recording α) (limit : UInt32) (offset : UInt64) : Page α :=
  ⟨(q.rows.drop offset.toNat).take limit.toNat, UInt64.ofNat q.rows.length, limit, offset⟩

instance : QueryBuilder (Recording α) α (List Predicate) where
  addPredicate q p := .ofStep q (q.addPredicate p)
  addOrder q field direction := ⟨q.record (.orderBy field direction), .ok ()⟩
  select q fields := q.record (.select fields)
  addSelect q fields := q.record (.addSelect fields)
  limit q n := q.record (.limit n)
  offset q n := q.record (.offset n)
  get q := ⟨q, .ok q.rows⟩
  page q limit offset := ⟨(q.record (.limit limit)).record (.offset offset), .ok (q.page limit offset)⟩
  findFirst q := ⟨q, .ok q.rows.head?⟩
  conditions := predicates

end Recording

end Listing
