import Listing.Time.Reading
import Listing.Value
import Listing.Error

namespace Listing

inductive DateKind
  | date
  | dateTime
  | timestamp
  deriving DecidableEq, Repr, Inhabited

namespace DateKind

def all : List DateKind := [date, dateTime, timestamp]

def name : DateKind → String
  | date => "Date"
  | dateTime => "DateTime"
  | timestamp => "Timestamp"

def ofName? (s : String) : Option DateKind := all.find? fun k ↦ k.name = s

def defaultPattern : DateKind → String
  | date => "%Y-%m-%d"
  | dateTime => "%Y-%m-%dT%H:%M:%S"
  | timestamp => "%Y-%m-%d %H:%M:%S"

end DateKind

structure DateSpec where
  kind : DateKind
  ownPattern : Option String := none
  deriving DecidableEq, Repr

namespace DateSpec

def pattern (spec : DateSpec) : String := spec.ownPattern.getD spec.kind.defaultPattern

/-- The value of a trimmed text. Timestamps without a pattern of their own may also be internet
timestamps. -/
def read? (spec : DateSpec) (text : String) : Option Value :=
  match spec.kind with
  | .date => (Time.Date.ofText? spec.pattern text).map .date
  | .dateTime => (Time.DateTime.ofText? spec.pattern text).map .dateTime
  | .timestamp =>
    match Time.DateTime.ofText? spec.pattern text, spec.ownPattern with
    | some t, _ => some (.timestamp ⟨t⟩)
    | none, none => (Time.Moment.ofText? text).map .timestamp
    | none, some _ => none

def parse (spec : DateSpec) (param raw : String) : Except QueryError Value :=
  let text := Text.trim raw
  match spec.read? text with
  | some v => .ok v
  | none =>
    .error ((Problem.invalidDate text param spec.pattern spec.kind.name).toError.withOrigin .date)

end DateSpec

end Listing
