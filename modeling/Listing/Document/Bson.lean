import Listing.Number.Hexadecimal
import Listing.Value

namespace Listing

open Number

inductive Bson
  | null
  | bool (b : Bool)
  | int32 (n : Int32)
  | int64 (n : Int64)
  | double (x : Double)
  | string (s : String)
  | date (milliseconds : Int)
  /-- The 24 small hexadecimal digits of a document identifier. -/
  | objectId (digits : String)
  | regex (pattern : String)
  | array (items : List Bson)
  | document (members : List (String × Bson))
  deriving Inhabited

namespace Document

/-- Sets a key: in its place if it is there, else at the end. -/
def put {α : Type} (key : String) (v : α) : List (String × α) → List (String × α)
  | [] => [(key, v)]
  | (k, w) :: r => if k = key then (k, v) :: r else (k, w) :: put key v r

def isObjectId (s : String) : Bool := s.toList.length = 24 && s.toList.all isHexDigit

def objectIdOf (s : String) : Bson := .objectId (String.ofList (s.toList.map Text.asciiLower))

mutual

/-- The document form of a value. Dates are moments at midnight of universal time. With
`identifiers`, texts that spell document identifiers become such. -/
def bsonOf (identifiers : Bool) : Value → Bson
  | .null => .null
  | .bool b => .bool b
  | .int n => .int32 n
  | .long n => .int64 n
  | .float x => .double x
  | .string s => if identifiers && isObjectId s then objectIdOf s else .string s
  | .date d => .date (Time.DateTime.mk d Time.Clock.midnight).milliseconds
  | .dateTime t => .date t.milliseconds
  | .timestamp t => .date t.universal.milliseconds
  | .list items => .array (bsonsOf identifiers items)

def bsonsOf (identifiers : Bool) : List Value → List Bson
  | [] => []
  | v :: r => bsonOf identifiers v :: bsonsOf identifiers r

end

end Document

end Listing
