import Listing.Script
import Listing.Sql.Query

namespace Listing.Sql

inductive Call
  | fetch (s : Statement)
  | count (s : Statement)

instance : Executor (Script Call) String where
  fetch x s :=
    (x.record (.fetch s),
      match x.failure with
      | some .fetch => .error (.execution "fetch failed")
      | some .decode => .error (.deserialization "bad row")
      | _ => .ok x.rows)
  count x s :=
    (x.record (.count s),
      if x.failure = some .count then .error (.execution "count failed") else .ok x.total)

end Listing.Sql
