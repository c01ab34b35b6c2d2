import Listing.Script
import Listing.Document.Query

namespace Listing.Document

inductive Call
  | find (spec : FindSpec)
  | count (filter : List (String × Bson))

instance : Executor (Script Call) String where
  find x spec :=
    (x.record (.find spec),
      match x.failure with
      | some .fetch => .error (.query "find failed")
      | some .decode => .error (.serialization "bad document")
      | _ => .ok x.rows)
  count x filter :=
    (x.record (.count filter),
      if x.failure = some .count then .error (.query "count failed") else .ok x.total)

end Listing.Document
