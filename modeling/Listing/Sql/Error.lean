import Listing.Error

namespace Listing.Sql

inductive SqlError
  | unsafeIdentifier (name : String)
  | invalidBetween (field got : String)
  | parameter (position : Nat) (expected value : String)
  | execution (message : String)
  | deserialization (message : String)
  | internal (message : String)
  deriving DecidableEq, Repr

namespace SqlError

def message : SqlError → String
  | unsafeIdentifier name => "unsafe identifier: '" ++ name ++ "'"
  | invalidBetween field got =>
    "BETWEEN on '" ++ field ++ "' needs a list of exactly two values, got " ++ got
  | parameter position expected value =>
    "parameter $" ++ Number.naturalText position ++ " expects " ++ expected ++ ", got '" ++ value ++
      "'"
  | execution message => "execution error: " ++ message
  | deserialization message => "deserialization error: " ++ message
  | internal message => "internal error: " ++ message

/-- Errors that arise before anything is executed. -/
def isCompileError : SqlError → Bool
  | unsafeIdentifier _ => true
  | invalidBetween _ _ => true
  | _ => false

def field? : SqlError → Option String
  | unsafeIdentifier name => some name
  | invalidBetween field _ => some field
  | _ => none

def toQueryError (e : SqlError) : QueryError :=
  let base := (QueryError.ofBackend e.message).withOperation "SQL backend"
  match e.field? with
  | some f => base.withField f
  | none => base

end SqlError

end Listing.Sql
