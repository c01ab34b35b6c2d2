import Listing.Document.Bson
import Listing.Document.Error
import Listing.Document.Like
import Listing.Grouping
import Listing.Predicate

namespace Listing.Document

inductive FieldOperator
  | eq
  | ne
  | gt
  | gte
  | lt
  | lte
  | regex
  | notRegex
  | among
  | notAmong
  | isNull
  | notNull
  deriving DecidableEq, Repr

namespace FieldOperator

def key : FieldOperator → String
  | eq => "$eq"
  | isNull => "$eq"
  | ne => "$ne"
  | notNull => "$ne"
  | gt => "$gt"
  | gte => "$gte"
  | lt => "$lt"
  | lte => "$lte"
  | regex => "$regex"
  | notRegex => "$not"
  | among => "$in"
  | notAmong => "$nin"

/-- BETWEEN keeps its lower bound only. -/
def ofOperator : Operator → FieldOperator
  | .equal => eq
  | .diff => ne
  | .greater => gt
  | .greaterOrEqual => gte
  | .between => gte
  | .less => lt
  | .lessOrEqual => lte
  | .like => regex
  | .notLike => notRegex
  | .among => among
  | .notAmong => notAmong
  | .isNull => isNull
  | .isNotNull => notNull

def toOperator : FieldOperator → Operator
  | eq => .equal
  | ne => .diff
  | gt => .greater
  | gte => .greaterOrEqual
  | lt => .less
  | lte => .lessOrEqual
  | regex => .like
  | notRegex => .notLike
  | among => .among
  | notAmong => .notAmong
  | isNull => .isNull
  | notNull => .isNotNull

def isLossy (o : Operator) : Bool := toOperator (ofOperator o) != o

end FieldOperator

def sortValue : SortDirection → Int32
  | .asc => 1
  | .desc => -1

def sortOf? (n : Int32) : Option SortDirection :=
  SortDirection.all.find? fun d ↦ sortValue d = n

def connectorKey : Combinator → String
  | .and => "$and"
  | .or => "$or"

def connectorOf? (key : String) : Option Combinator :=
  Combinator.all.find? fun c ↦ connectorKey c = key

/-- A field path: parts joined by dots, none of them empty, without a dollar sign in front and
without a null character. -/
def isFieldPath (field : String) : Bool :=
  field.toList.head? != some '$' && !field.toList.contains (Char.ofNat 0) &&
    (Text.piecesAt '.' field.toList).all fun p ↦ !p.isEmpty

def validate (field : String) : Except DocumentError Unit :=
  if isFieldPath field then .ok () else .error (.invalidField field)

structure Condition where
  field : String
  operator : FieldOperator
  operand : Bson
  connector : Combinator

namespace Condition

def operandOf (identifiers : Bool) (field : String) (operator : Operator) (v : Value) :
    Except DocumentError Bson :=
  match operator with
  | .isNull => .ok .null
  | .isNotNull => .ok .null
  | .like => .ok (.string (likeRegex v.text))
  | .notLike => .ok (.regex (likeRegex v.text))
  | .among => .ok (.array (bsonsOf identifiers v.members))
  | .notAmong => .ok (.array (bsonsOf identifiers v.members))
  | .between =>
    match v with
    | .list [] => .error (.query ("BETWEEN on '" ++ field ++ "' needs a lower bound"))
    | .list (low :: _) => .ok (bsonOf identifiers low)
    | v => .ok (bsonOf identifiers v)
  | _ => .ok (bsonOf identifiers v)

def ofPredicate (identifiers : Bool) (p : Predicate) : Except DocumentError Condition := do
  validate p.field
  let operand ← operandOf identifiers p.field p.operator p.value
  pure { field := p.field, operator := .ofOperator p.operator, operand, connector := p.combinator }

def toBson (c : Condition) : Bson := .document [(c.field, .document [(c.operator.key, c.operand)])]

end Condition

def groupBson : List Condition → Bson
  | [c] => c.toBson
  | cs => .document [(connectorKey .or, .array (cs.map Condition.toBson))]

/-- The filter document: all groups must hold. It is empty if there are no conditions. -/
def filterDocument (cs : List Condition) : List (String × Bson) :=
  match orGroups (cs.map fun c ↦ (c.connector, c)) with
  | [] => []
  | groups => [(connectorKey .and, .array (groups.map groupBson))]

end Listing.Document
