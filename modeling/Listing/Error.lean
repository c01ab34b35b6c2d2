import Listing.Number.Decimal
import Listing.Text.Pieces
import Listing.Vocabulary

namespace Listing

inductive ErrorCategory
  | configuration
  | value
  | backend
  deriving DecidableEq, Repr

def ErrorCategory.name : ErrorCategory → String
  | configuration => "configuration"
  | value => "value"
  | backend => "backend"

inductive ErrorCode
  | fieldNotAllowed
  | filterNotBodyCapable
  | bodyRequired
  | invalidSort
  | malformedFilterNode
  | invalidConfiguration
  | invalidValue
  | invalidDate
  | invalidNumber
  | emptyValue
  | missingValue
  | invalidEnumValue
  | emptyList
  | invalidBody
  | backend
  deriving DecidableEq, Repr

namespace ErrorCode

def all : List ErrorCode :=
  [fieldNotAllowed, filterNotBodyCapable, bodyRequired, invalidSort, malformedFilterNode,
    invalidConfiguration, invalidValue, invalidDate, invalidNumber, emptyValue, missingValue,
    invalidEnumValue, emptyList, invalidBody, backend]

def number : ErrorCode → Nat
  | fieldNotAllowed => 1001
  | filterNotBodyCapable => 1002
  | bodyRequired => 1003
  | invalidSort => 1004
  | malformedFilterNode => 1005
  | invalidConfiguration => 1006
  | invalidValue => 2001
  | invalidDate => 2002
  | invalidNumber => 2003
  | emptyValue => 2004
  | missingValue => 2005
  | invalidEnumValue => 2006
  | emptyList => 2007
  | invalidBody => 2008
  | backend => 3001

def name (c : ErrorCode) : String := "S" ++ Number.naturalText c.number

def ofName? (s : String) : Option ErrorCode := all.find? fun c ↦ c.name = s

def category (c : ErrorCode) : ErrorCategory :=
  if c.number < 2000 then .configuration
  else if c.number < 3000 then .value
  else .backend

def description : ErrorCode → String
  | fieldNotAllowed => "Field not allowed"
  | filterNotBodyCapable => "Filter does not support body requests"
  | bodyRequired => "Request body required"
  | invalidSort => "Invalid sort"
  | malformedFilterNode => "Malformed filter node"
  | invalidConfiguration => "Invalid configuration"
  | invalidValue => "Invalid value"
  | invalidDate => "Invalid date"
  | invalidNumber => "Invalid number"
  | emptyValue => "Empty value"
  | missingValue => "Missing value"
  | invalidEnumValue => "Invalid enum value"
  | emptyList => "Empty value list"
  | invalidBody => "Invalid request body"
  | backend => "Backend error"

end ErrorCode

structure Suggestion where
  text : String
  code : Option String := none
  deriving DecidableEq, Repr

structure ErrorContext where
  operation : Option String := none
  field : Option String := none
  value : Option String := none
  suggestions : List Suggestion := []
  help : Option String := none
  deriving DecidableEq, Repr

inductive Origin
  | number
  | date
  | json
  | backend (message : String)
  deriving DecidableEq, Repr

inductive Problem
  | fieldNotAllowed (field : String)
  | filterNotBodyCapable (param kind : String)
  | bodyRequired (method : String)
  | sortFieldMissing
  | sortFieldNotValid (field : String)
  | malformedFilterNode
  | invalidConfiguration (message : String)
  | invalidValue (field message : String)
  | invalidDate (value field pattern kind : String)
  | invalidNumber (field value : String)
  | emptyValue (field kind : String)
  | missingValue (field : String) (operator : Operator)
  | invalidEnumValue (value field : String) (allowed : List String)
  | emptyList (field : String)
  | invalidBody (message : String)
  | backend (message : String)
  /-- A problem that the application states in its own words. -/
  | stated (code : ErrorCode) (message : String)
  deriving DecidableEq, Repr

namespace Problem

def code : Problem → ErrorCode
  | fieldNotAllowed _ => .fieldNotAllowed
  | filterNotBodyCapable _ _ => .filterNotBodyCapable
  | bodyRequired _ => .bodyRequired
  | sortFieldMissing => .invalidSort
  | sortFieldNotValid _ => .invalidSort
  | malformedFilterNode => .malformedFilterNode
  | invalidConfiguration _ => .invalidConfiguration
  | invalidValue _ _ => .invalidValue
  | invalidDate _ _ _ _ => .invalidDate
  | invalidNumber _ _ => .invalidNumber
  | emptyValue _ _ => .emptyValue
  | missingValue _ _ => .missingValue
  | invalidEnumValue _ _ _ => .invalidEnumValue
  | emptyList _ => .emptyList
  | invalidBody _ => .invalidBody
  | backend _ => .backend
  | stated code _ => code

def message : Problem → String
  | fieldNotAllowed field => "The field '" ++ field ++ "' is not allowed"
  | filterNotBodyCapable param kind =>
    "The " ++ kind ++ " filter '" ++ param ++ "' does not support body requests"
  | bodyRequired method =>
    "This endpoint only accepts a request body, got a " ++ method ++ " request"
  | sortFieldMissing => "The sort list is not valid, one element has a null field"
  | sortFieldNotValid field => "The field '" ++ field ++ "' is not valid"
  | malformedFilterNode => "The field and subFilters cannot be empty at the same time"
  | invalidConfiguration message => message
  | invalidValue field message => "Invalid value for '" ++ field ++ "': " ++ message
  | invalidDate value field pattern kind =>
    "Invalid date format for '" ++ value ++ "' in filter '" ++ field ++ "'. Expected pattern: " ++
      pattern ++ ", Date type: " ++ kind
  | invalidNumber field value => "Invalid number '" ++ value ++ "' for filter '" ++ field ++ "'"
  | emptyValue field kind => "Value cannot be empty for " ++ kind ++ " filter '" ++ field ++ "'"
  | missingValue _ operator => "The value cannot be null for: " ++ operator.name
  | invalidEnumValue value field allowed =>
    "Invalid value '" ++ value ++ "' for " ++ field ++ ". Allowed values: " ++
      Text.join ", " allowed
  | emptyList field => "Value list cannot be empty for IN filter '" ++ field ++ "'"
  | invalidBody message => "Error reading body request: " ++ message
  | backend message => message
  | stated _ message => message

def context : Problem → ErrorContext
  | fieldNotAllowed field => {
      field := some field
      suggestions := [⟨"Register a filter for this parameter",
        some ("Filterable::new().with_filters([Filter::exact(\"" ++ field ++ "\")])")⟩] }
  | filterNotBodyCapable param _ => {
      field := some param
      suggestions := [⟨"Send this filter as a query parameter instead", none⟩] }
  | bodyRequired _ => {
      help := some "Body-only mode rejects query-parameter filtering entirely" }
  | sortFieldNotValid field => {
      field := some field
      suggestions := [⟨"Add the field to the allowed sorts", none⟩] }
  | invalidValue field _ => { field := some field }
  | invalidDate value field _ _ => { field := some field, value := some value }
  | invalidNumber field value => { field := some field, value := some value }
  | emptyValue field _ => { field := some field }
  | missingValue field _ => {
      field := some field
      suggestions := [⟨"Only IS_NULL and IS_NOT_NULL may omit the value", none⟩] }
  | invalidEnumValue value field _ => { field := some field, value := some value }
  | emptyList field => { field := some field }
  | _ => {}

end Problem

structure QueryError where
  problem : Problem
  context : ErrorContext
  origin : Option Origin := none
  deriving DecidableEq, Repr

def Problem.toError (p : Problem) : QueryError := { problem := p, context := p.context }

namespace QueryError

def code (e : QueryError) : ErrorCode := e.problem.code

def message (e : QueryError) : String := e.problem.message

def category (e : QueryError) : ErrorCategory := e.code.category

def withOrigin (e : QueryError) (o : Origin) : QueryError := { e with origin := some o }

def withOperation (e : QueryError) (s : String) : QueryError :=
  { e with context := { e.context with operation := some s } }

def withField (e : QueryError) (s : String) : QueryError :=
  { e with context := { e.context with field := some s } }

def withValue (e : QueryError) (s : String) : QueryError :=
  { e with context := { e.context with value := some s } }

def withHelp (e : QueryError) (s : String) : QueryError :=
  { e with context := { e.context with help := some s } }

def withSuggestion (e : QueryError) (text : String) (code : Option String) : QueryError :=
  { e with context := { e.context with suggestions := e.context.suggestions ++ [⟨text, code⟩] } }

def ofBackend (message : String) : QueryError :=
  (Problem.backend message).toError.withOrigin (.backend message)

def line (e : QueryError) : String := "[" ++ e.code.name ++ "] " ++ e.message

def detail (label : String) : Option String → String
  | some s => "  → " ++ label ++ ": " ++ s ++ "\n"
  | none => ""

def fenced : Option String → String
  | some code =>
    "     ```\n     " ++
      String.ofList (Text.replaceChar '\n' "\n     ".toList code.toList) ++ "\n     ```\n"
  | none => ""

def suggestionLines : Nat → List Suggestion → String
  | _, [] => ""
  | n, s :: r =>
    "  " ++ Number.naturalText n ++ ". " ++ s.text ++ "\n" ++ fenced s.code ++
      suggestionLines (n + 1) r

def report (e : QueryError) : String :=
  "Error [" ++ e.code.name ++ "]: " ++ e.message ++ "\n" ++
    detail "While" e.context.operation ++ detail "Field" e.context.field ++
    detail "Value" e.context.value ++
    (if e.context.suggestions.isEmpty then ""
      else "\nSuggestions:\n" ++ suggestionLines 1 e.context.suggestions) ++
    (match e.context.help with
      | some s => "\nHelp: " ++ s ++ "\n"
      | none => "")

end QueryError

namespace Operator

def parse (s : String) : Except QueryError Operator :=
  match ofText? s with
  | some o => .ok o
  | none => .error (Problem.invalidValue "operator" ("unknown operator '" ++ s ++ "'")).toError

end Operator

namespace Combinator

def parse (s : String) : Except QueryError Combinator :=
  match ofText? s with
  | some o => .ok o
  | none => .error (Problem.invalidValue "type" ("unknown combinator '" ++ s ++ "'")).toError

end Combinator

namespace SortDirection

def parse (s : String) : Except QueryError SortDirection :=
  match ofText? s with
  | some o => .ok o
  | none => .error (Problem.invalidValue "sort" ("unknown sort direction '" ++ s ++ "'")).toError

end SortDirection

end Listing
