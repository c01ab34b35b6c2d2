import Listing.Text.Blank
import Listing.Text.Case

namespace Listing

inductive Operator
  | equal
  | diff
  | greater
  | greaterOrEqual
  | less
  | lessOrEqual
  | like
  | notLike
  | among
  | notAmong
  | isNull
  | isNotNull
  | between
  deriving DecidableEq, Repr, Inhabited

/-- How a condition joins the ones before it. -/
inductive Combinator
  | and
  | or
  deriving DecidableEq, Repr, Inhabited

inductive SortDirection
  | asc
  | desc
  deriving DecidableEq, Repr, Inhabited

/-- Where a searched text may stand: at the start of what is found, at its end or anywhere. -/
inductive LikeStrategy
  | final
  | start
  | complete
  deriving DecidableEq, Repr, Inhabited

namespace Operator

def all : List Operator :=
  [equal, diff, greater, greaterOrEqual, less, lessOrEqual, like, notLike, among, notAmong, isNull,
    isNotNull, between]

def name : Operator → String
  | equal => "EQUAL"
  | diff => "DIFF"
  | greater => "GREATER"
  | greaterOrEqual => "GREATER_OR_EQUAL"
  | less => "LESS"
  | lessOrEqual => "LESS_OR_EQUAL"
  | like => "LIKE"
  | notLike => "NOT_LIKE"
  | among => "IN"
  | notAmong => "NOT_IN"
  | isNull => "IS_NULL"
  | isNotNull => "IS_NOT_NULL"
  | between => "BETWEEN"

def isNullCheck : Operator → Bool
  | isNull => true
  | isNotNull => true
  | _ => false

def takesList : Operator → Bool
  | among => true
  | notAmong => true
  | _ => false

theorem takesList_of_isNullCheck {o : Operator} (h : o.isNullCheck = true) :
    o.takesList = false := by
  revert h
  cases o <;> decide

theorem isNullCheck_of_takesList {o : Operator} (h : o.takesList = true) :
    o.isNullCheck = false := by
  revert h
  cases o <;> decide

def ofName? (s : String) : Option Operator := all.find? fun o ↦ o.name = s

def ofText? (s : String) : Option Operator := all.find? fun o ↦ Text.sameLetters o.name (Text.trim s)

theorem ofName?_name (o : Operator) : ofName? o.name = some o := by cases o <;> decide

end Operator

namespace Combinator

def all : List Combinator := [and, or]

def name : Combinator → String
  | and => "AND"
  | or => "OR"

def ofName? (s : String) : Option Combinator := all.find? fun o ↦ o.name = s

def ofText? (s : String) : Option Combinator :=
  all.find? fun o ↦ Text.sameLetters o.name (Text.trim s)

theorem ofName?_name (c : Combinator) : ofName? c.name = some c := by cases c <;> decide

end Combinator

namespace SortDirection

def all : List SortDirection := [asc, desc]

def name : SortDirection → String
  | asc => "ASC"
  | desc => "DESC"

def ofName? (s : String) : Option SortDirection := all.find? fun o ↦ o.name = s

def ofText? (s : String) : Option SortDirection :=
  all.find? fun o ↦ Text.sameLetters o.name (Text.trim s)

theorem ofName?_name (d : SortDirection) : ofName? d.name = some d := by cases d <;> decide

end SortDirection

namespace LikeStrategy

def all : List LikeStrategy := [final, start, complete]

def name : LikeStrategy → String
  | final => "FINAL"
  | start => "START"
  | complete => "COMPLETE"

def ofName? (s : String) : Option LikeStrategy := all.find? fun o ↦ o.name = s

def pattern (strategy : LikeStrategy) (value : String) : String :=
  if '%' ∈ value.toList then value
  else match strategy with
    | final => value ++ "%"
    | start => "%" ++ value
    | complete => "%" ++ value ++ "%"

end LikeStrategy

end Listing
