import Listing.Error

namespace Listing.Document

inductive DocumentError
  | invalidField (field : String)
  | query (message : String)
  | serialization (message : String)
  | internal (message : String)
  deriving DecidableEq, Repr

namespace DocumentError

def message : DocumentError → String
  | invalidField field => "invalid field path: '" ++ field ++ "'"
  | query message => "query error: " ++ message
  | serialization message => "serialization error: " ++ message
  | internal message => "internal error: " ++ message

def isInvalidField : DocumentError → Bool
  | invalidField _ => true
  | _ => false

def toQueryError (e : DocumentError) : QueryError :=
  let base := (QueryError.ofBackend e.message).withOperation "MongoDB backend"
  match e with
  | invalidField field => base.withField field
  | _ => base

end DocumentError

end Listing.Document
