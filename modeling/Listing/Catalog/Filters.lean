import Listing.Body
import Listing.Filter.Reading
import Listing.Request

namespace Listing

abbrev FilterCatalog := List Filter

namespace FilterCatalog

def find? (c : FilterCatalog) (param : String) : Option Filter :=
  List.find? (fun f ↦ f.param = param) c

/-- The text that a filter works on: the given one unless it is blank, else the default. -/
def effective? (f : Filter) (given : Option String) : Option String :=
  match given with
  | some raw => if Text.isBlankText raw then f.defaultValue else some raw
  | none => f.defaultValue

variable {β : Type} [ClauseBuilder β]

def applyFilter (lookup : String → Option String) (q : β) (f : Filter) : Run β Unit :=
  match effective? f (lookup f.param) with
  | none => ⟨q, .ok ()⟩
  | some raw =>
    if f.isIgnored raw then ⟨q, .ok ()⟩
    else (f.apply q raw).mapError fun e ↦ e.withOperation ("Applying filter '" ++ f.param ++ "'")

def applyLookup (c : FilterCatalog) (q : β) (lookup : String → Option String) : Run β Unit :=
  Run.each (applyFilter lookup) q c

def applyParams (c : FilterCatalog) (q : β) (params : Params) : Run β Unit :=
  c.applyLookup q params.get?

/-- The value that a raw text has under a filter and an operator; list operators take the texts
between commas. -/
def bodyValue (f : Filter) (operator : Operator) (raw : String) : Except QueryError Value :=
  if operator.takesList then do
    let items ← (Text.piecesAt ',' raw.toList).mapM fun s ↦
      f.transform (String.ofList (Text.trimBoth s))
    pure (.list items)
  else f.transform raw

/-- The predicate of a leaf, or none if its value is ignored. -/
def leafPredicate (c : FilterCatalog) (field value : Option String) (operator : Operator)
    (combinator : Combinator) : Except QueryError (Option Predicate) :=
  match field with
  | none => .error Problem.malformedFilterNode.toError
  | some name =>
    match c.find? name with
    | none => .error (Problem.fieldNotAllowed name).toError
    | some f =>
      if !f.supportsBody then .error (Problem.filterNotBodyCapable name f.kind.name).toError
      else if operator.isNullCheck then
        .ok (some { field := f.internalName, operator, value := .null, combinator })
      else
        match value with
        | none => .error (Problem.missingValue name operator).toError
        | some raw =>
          if f.isIgnored raw then .ok none
          else (bodyValue f operator raw).map fun v ↦
            some { field := f.internalName, operator, value := v, combinator }

def applyLeaf (c : FilterCatalog) (q : β) (field value : Option String) (operator : Operator)
    (combinator : Combinator) : Run β Unit :=
  match c.leafPredicate field value operator combinator with
  | .error e => ⟨q, .error e⟩
  | .ok none => ⟨q, .ok ()⟩
  | .ok (some p) => p.addTo q

mutual

/-- Applies a node: a group by its children, whatever else it carries. -/
def applyNode (c : FilterCatalog) (q : β) : FilterNode → Run β Unit
  | .mk field value operator combinator [] => c.applyLeaf q field value operator combinator
  | .mk _ _ _ _ (n :: r) => (applyNode c q n).andThen fun q _ ↦ applyBody c q r

def applyBody (c : FilterCatalog) (q : β) : List FilterNode → Run β Unit
  | [] => ⟨q, .ok ()⟩
  | n :: r => (applyNode c q n).andThen fun q _ ↦ applyBody c q r

end

end FilterCatalog

end Listing
