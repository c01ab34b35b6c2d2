import Listing.Page
import Listing.Predicate

namespace Listing

def addMissing (names : List String) : List String → List String
  | [] => names
  | s :: r => addMissing (if names.contains s then names else names ++ [s]) r

class QueryBuilder (β : Type) (row conditions : outParam Type) extends ClauseBuilder β where
  select : β → List String → β
  addSelect : β → List String → β
  limit : β → UInt32 → β
  offset : β → UInt64 → β
  get : β → Run β (List row)
  page : β → UInt32 → UInt64 → Run β (Page row)
  findFirst : β → Run β (Option row)
  conditions : β → conditions

end Listing
