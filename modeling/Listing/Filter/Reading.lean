import Listing.Filter.Basic
import Listing.Shorthand

namespace Listing.Filter

def nullWords : List String := ["null", "true", "1", "yes"]

def notNullWords : List String := ["not_null", "false", "0", "no"]

def nullCheck (f : Filter) (raw : String) : Except QueryError Operator :=
  let word := Text.lower (Text.trim raw)
  if nullWords.contains word then .ok .isNull
  else if notNullWords.contains word then .ok .isNotNull
  else .error (Problem.invalidValue f.param
    ("'" ++ raw ++ "' is not a null check, expected one of " ++ Text.join "/" nullWords ++ " or " ++
      Text.join "/" notNullWords)).toError

def allowedToken (f : Filter) (allowed : List String) (token : String) : Except QueryError String :=
  if allowed.contains token then .ok token
  else .error (Problem.invalidEnumValue token f.param allowed).toError

def sniffed (f : Filter) (raw : String) : Except QueryError Value :=
  match Value.sniff? raw with
  | some v => .ok v
  | none => .error ((Problem.invalidNumber f.param raw).toError.withOrigin .number)

def bound (f : Filter) (raw : String) : Except QueryError Value :=
  if (Text.trim raw).isEmpty then .error (Problem.emptyValue f.param f.kind.name).toError
  else .ok (Value.ofNumeral (Text.trim raw))

def transform (f : Filter) (raw : String) : Except QueryError Value :=
  match f.kind with
  | .exact => f.sniffed raw
  | .greater _ => .ok (Value.ofNumeral (Text.trim raw))
  | .less _ => .ok (Value.ofNumeral (Text.trim raw))
  | .enumeration allowed => (f.allowedToken allowed (Text.trim raw)).map .string
  | .isNull => (f.nullCheck raw).map fun o ↦ .bool (o = .isNull)
  | .date spec => spec.parse f.param raw
  | _ => .ok (.string raw)

def own (f : Filter) (operator : Operator) (value : Value) : Predicate :=
  .and f.internalName operator value

/-- The predicates of the given sides of a range: at least the first, at most the second. -/
def sides (f : Filter) : Option Value × Option Value → List Predicate
  | (lo, hi) => (lo.map (f.own .greaterOrEqual)).toList ++ (hi.map (f.own .lessOrEqual)).toList

def distinct : List String → List String
  | [] => []
  | s :: r => s :: (distinct r).filter (· != s)

/-- One LIKE per field, any of which may hold. -/
def searchPredicates (pattern : String) : List String → List Predicate
  | [] => []
  | g :: r => .and g .like (.string pattern) :: r.map fun g ↦ .or g .like (.string pattern)

def enumerationPredicates (f : Filter) (allowed : List String) (raw : String) :
    Except QueryError (List Predicate) :=
  if ',' ∈ raw.toList then do
    let tokens ← (Shorthand.list "," raw).mapM (f.allowedToken allowed)
    if tokens.isEmpty then pure []
    else pure [f.own .among (.list ((distinct tokens).map .string))]
  else do
    let token ← f.allowedToken allowed (Text.trim raw)
    pure [f.own .equal (.string token)]

def dateSide (f : Filter) (spec : DateSpec) : Option String → Except QueryError (Option Value)
  | none => .ok none
  | some s => (spec.parse f.param s).map some

def datePredicates (f : Filter) (spec : DateSpec) (raw : String) :
    Except QueryError (List Predicate) :=
  match Shorthand.range? raw with
  | some (first, last) => do
    let lo ← f.dateSide spec first
    let hi ← f.dateSide spec last
    pure (f.sides (lo, hi))
  | none => do
    let value ← spec.parse f.param (Shorthand.withoutMark raw)
    pure [f.own (Shorthand.comparisonOperator raw) value]

/-- The predicates that a raw text stands for as a query parameter. -/
def predicates (f : Filter) (raw : String) : Except QueryError (List Predicate) :=
  match f.kind with
  | .exact => (f.sniffed raw).map fun v ↦ [f.own .equal v]
  | .partialMatch strategy => .ok [f.own .like (.string (strategy.pattern raw))]
  | .search fields strategy => .ok (searchPredicates (strategy.pattern raw) fields)
  | .comparison =>
    let (operator, operand) := Shorthand.comparison raw
    if operand.isEmpty then .error (Problem.emptyValue f.param f.kind.name).toError
    else .ok [f.own operator (.string operand)]
  | .greater orEqual =>
    (f.bound raw).map fun v ↦ [f.own (if orEqual then .greaterOrEqual else .greater) v]
  | .less orEqual =>
    (f.bound raw).map fun v ↦ [f.own (if orEqual then .lessOrEqual else .less) v]
  | .interval =>
    match Shorthand.interval? raw with
    | none => .ok [f.own .equal (.string (Text.trim raw))]
    | some (lo, hi) => .ok (f.sides (lo.map .string, hi.map .string))
  | .among delimiter =>
    match Shorthand.list delimiter raw with
    | [] => .error (Problem.emptyList f.param).toError
    | items => .ok [f.own .among (.list (items.map .string))]
  | .enumeration allowed => f.enumerationPredicates allowed raw
  | .isNull => (f.nullCheck raw).map fun o ↦ [f.own o .null]
  | .date spec => f.datePredicates spec raw
  | .custom _ => .ok []

def apply {β : Type} [ClauseBuilder β] (f : Filter) (q : β) (raw : String) : Run β Unit :=
  match f.kind with
  | .custom program => (program raw).run q
  | _ =>
    match f.predicates raw with
    | .ok ps => addPredicates q ps
    | .error e => ⟨q, .error e⟩

end Listing.Filter
