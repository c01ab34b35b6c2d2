import Listing.Filter.DateSpec
import Listing.Predicate
import Listing.Text.Quoted

namespace Listing

inductive FilterKind
  | exact
  | partialMatch (strategy : LikeStrategy)
  | search (fields : List String) (strategy : LikeStrategy)
  | comparison
  | greater (orEqual : Bool)
  | less (orEqual : Bool)
  | interval
  | among (delimiter : String)
  | enumeration (allowed : List String)
  | isNull
  | date (spec : DateSpec)
  | custom (program : String → ClauseProgram)

namespace FilterKind

def name : FilterKind → String
  | exact => "exact"
  | partialMatch _ => "partial"
  | search _ _ => "search"
  | comparison => "comparison"
  | greater _ => "greater"
  | less _ => "less"
  | interval => "interval"
  | among _ => "in"
  | enumeration _ => "enum"
  | isNull => "is-null"
  | date _ => "date"
  | custom _ => "custom"

def isCustom : FilterKind → Bool
  | custom _ => true
  | _ => false

/-- Searches and the application's own filters do not work in bodies unless they are told to. -/
def isBodyCapable : FilterKind → Bool
  | search _ _ => false
  | custom _ => false
  | _ => true

def withStrategy (strategy : LikeStrategy) : FilterKind → FilterKind
  | partialMatch _ => partialMatch strategy
  | search fields _ => search fields strategy
  | k => k

def strategyWord : LikeStrategy → String
  | .final => "Final"
  | .start => "Start"
  | .complete => "Complete"

def boolWord (b : Bool) : String := if b then "true" else "false"

def quotedList (texts : List String) : String :=
  "[" ++ Text.join ", " (texts.map Text.quoted) ++ "]"

def settings (name fields : String) : String := name ++ " \x7b " ++ fields ++ " \x7d"

def describe : FilterKind → String
  | exact => "Exact"
  | partialMatch strategy => settings "Partial" ("strategy: " ++ strategyWord strategy)
  | search fields strategy =>
    settings "Search" ("fields: " ++ quotedList fields ++ ", strategy: " ++ strategyWord strategy)
  | comparison => "Comparison"
  | greater orEqual => settings "Greater" ("or_equal: " ++ boolWord orEqual)
  | less orEqual => settings "Less" ("or_equal: " ++ boolWord orEqual)
  | interval => "Interval"
  | among delimiter => settings "In" ("delimiter: " ++ Text.quoted delimiter)
  | enumeration allowed => settings "Enum" ("allowed: " ++ quotedList allowed)
  | isNull => "IsNull"
  | date spec =>
    let pattern := match spec.ownPattern with
      | some p => "Some(" ++ Text.quoted p ++ ")"
      | none => "None"
    "Date(" ++ settings "DateSpec" ("kind: " ++ spec.kind.name ++ ", pattern: " ++ pattern) ++ ")"
  | custom _ => "Custom(..)"

end FilterKind

structure Filter where
  param : String
  internalName : String
  defaultValue : Option String := none
  ignored : List String := []
  bodyOperation : Option Bool := none
  kind : FilterKind

namespace Filter

def ofKind (param : String) (kind : FilterKind) : Filter := { param, internalName := param, kind }

def searchParam : String := "search"

def withStrategy (f : Filter) (strategy : LikeStrategy) : Filter :=
  { f with kind := f.kind.withStrategy strategy }

def withIgnored (f : Filter) (values : List String) : Filter :=
  { f with ignored := f.ignored ++ values }

def isIgnored (f : Filter) (raw : String) : Bool := f.ignored.contains (Text.trim raw)

def supportsBody (f : Filter) : Bool := f.bodyOperation.getD f.kind.isBodyCapable

end Filter

end Listing
