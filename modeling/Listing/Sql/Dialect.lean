import Listing.Sql.Identifier

namespace Listing.Sql

inductive Dialect
  | postgres
  | mySql
  | sqlite
  deriving DecidableEq, Repr, Inhabited

def reservedWords : List String :=
  ["user", "order", "group", "select", "from", "where", "table", "index", "key", "primary",
    "foreign", "check", "default", "null", "not", "and", "or", "in", "is", "like", "between",
    "case", "when", "then", "else", "end", "as", "on", "join", "left", "right", "inner", "outer",
    "cross", "natural", "using", "limit", "offset", "union", "intersect", "except", "all",
    "distinct", "having", "create", "alter", "drop", "insert", "update", "delete", "into",
    "values", "set", "returning"]

def isReserved (name : List Char) : Bool :=
  reservedWords.contains (Text.lower (String.ofList name))

namespace Dialect

def all : List Dialect := [postgres, mySql, sqlite]

def name : Dialect → String
  | postgres => "Postgres"
  | mySql => "MySql"
  | sqlite => "Sqlite"

/-- The placeholder of the value with this number, the first being number 1. -/
def placeholder (d : Dialect) (index : Nat) : String :=
  match d with
  | postgres => "$" ++ Number.naturalText index
  | mySql => "?"
  | sqlite => "?"

def quoteMark : Dialect → Char
  | mySql => '\x60'
  | postgres => '"'
  | sqlite => '"'

def quoteName (d : Dialect) (name : List Char) : List Char :=
  if isReserved name then d.quoteMark :: name ++ [d.quoteMark] else name

def quote (d : Dialect) (path : String) : String :=
  Text.join "." ((segments path).map fun s ↦ String.ofList (d.quoteName s))

/-- The clause for a bound on the result and for the rows to pass over. -/
def limitClause? (d : Dialect) (limit : Option UInt32) (offset : Option UInt64) : Option String :=
  let number := fun n : Nat ↦ Number.naturalText n
  match limit, offset with
  | none, none => none
  | some n, none => some ("LIMIT " ++ number n.toNat)
  | some n, some m => some ("LIMIT " ++ number n.toNat ++ " OFFSET " ++ number m.toNat)
  | none, some m =>
    match d with
    | postgres => some ("OFFSET " ++ number m.toNat)
    | mySql => some ("LIMIT 18446744073709551615 OFFSET " ++ number m.toNat)
    | sqlite => some ("LIMIT -1 OFFSET " ++ number m.toNat)

end Dialect

end Listing.Sql
