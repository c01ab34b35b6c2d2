import Listing.Json.Parts
import Listing.Vocabulary

namespace Listing

/-- A node with sub-filters is a group; any other is a leaf. -/
inductive FilterNode
  | mk (field value : Option String) (operator : Operator) (combinator : Combinator)
      (children : List FilterNode)
  deriving Inhabited

namespace FilterNode

def field : FilterNode → Option String
  | mk f _ _ _ _ => f

def value : FilterNode → Option String
  | mk _ v _ _ _ => v

def operator : FilterNode → Operator
  | mk _ _ o _ _ => o

def combinator : FilterNode → Combinator
  | mk _ _ _ c _ => c

def children : FilterNode → List FilterNode
  | mk _ _ _ _ cs => cs

def isGroup (n : FilterNode) : Bool := !n.children.isEmpty

end FilterNode

structure OrderRequest where
  field : Option String := none
  direction : SortDirection := .asc
  deriving DecidableEq, Repr

structure Body where
  filters : List FilterNode := []
  sorts : List OrderRequest := []

namespace Body

open Json (parts? orDefault nullableText? word? nestingLimit)

mutual

def nodeJson : FilterNode → Json
  | .mk field value operator combinator children =>
    .object ([
      (some "field", Json.optionalText field),
      (some "value", Json.optionalText value),
      (some "operator", Json.text operator.name),
      (some "type", Json.text combinator.name)] ++
      (match children with
        | [] => []
        | c :: r => [(some "subFilters", .array (nodeJson c :: nodesJson r))]))

def nodesJson : List FilterNode → List Json
  | [] => []
  | n :: r => nodeJson n :: nodesJson r

end

def orderJson (o : OrderRequest) : Json :=
  .record [("field", Json.optionalText o.field), ("sort", Json.text o.direction.name)]

def toJson (b : Body) : Json :=
  .record [("filters", .array (nodesJson b.filters)), ("sorts", .array (b.sorts.map orderJson))]

/-- A text, or a number or truth value by its text. -/
def scalar? : Json → Option (Option String)
  | .null => some none
  | .string (some s) => some (some s)
  | .number l => (Json.numberValue? l).map fun n ↦ some n.text
  | .bool b => some (some (if b then "true" else "false"))
  | _ => none

def nodeKeys : List String := ["field", "value", "operator", "type", "subFilters"]

mutual

/-- A filter node, if `limit` containers may still be opened. -/
def node? : Nat → Json → Option FilterNode
  | 0, _ => none
  | limit + 1, j =>
    match parts? nodeKeys j with
    | some [field, value, operator, combinator, children] => do
      let field ← orDefault none nullableText? field
      let value ← orDefault none scalar? value
      let operator ← orDefault .equal (word? Operator.ofName? limit) operator
      let combinator ← orDefault .and (word? Combinator.ofName? limit) combinator
      let children ← orDefault [] (nodes? limit) children
      pure (.mk field value operator combinator children)
    | _ => none

def nodes? : Nat → Json → Option (List FilterNode)
  | limit + 1, .array items => items.mapM (node? limit)
  | _, _ => none

end

def order? (j : Json) : Option OrderRequest :=
  match parts? ["field", "sort"] j with
  | some [field, direction] => do
    let field ← orDefault none nullableText? field
    let direction ← orDefault .asc (word? SortDirection.ofName? nestingLimit) direction
    pure { field, direction }
  | _ => none

def orders? : Json → Option (List OrderRequest)
  | .array items => items.mapM order?
  | _ => none

def ofJson? (j : Json) : Option Body :=
  match parts? ["filters", "sorts"] j with
  | some [filters, sorts] => do
    let filters ← orDefault [] (nodes? (nestingLimit - 1)) filters
    let sorts ← orDefault [] orders? sorts
    pure { filters, sorts }
  | _ => none

def print (b : Body) : String := b.toJson.print

def read? (text : String) : Option Body := (Json.read? text).bind ofJson?

end Body

end Listing
