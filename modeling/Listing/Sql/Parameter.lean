import Listing.Number.Hexadecimal
import Listing.Number.Numeric
import Listing.Sql.Condition
import Listing.Time.Reading

namespace Listing.Sql

open Number

inductive ColumnType
  | bool
  | int2
  | int4
  | int8
  | float4
  | float8
  | numeric
  | text (name : String)
  | date
  | timestamp
  | timestamptz
  | uuid
  | other (name : String)
  deriving DecidableEq, Repr

namespace ColumnType

def name : ColumnType → String
  | bool => "bool"
  | int2 => "int2"
  | int4 => "int4"
  | int8 => "int8"
  | float4 => "float4"
  | float8 => "float8"
  | numeric => "numeric"
  | text name => name
  | date => "date"
  | timestamp => "timestamp"
  | timestamptz => "timestamptz"
  | uuid => "uuid"
  | other name => name

def textNames : List String := ["text", "varchar", "bpchar", "name", "unknown"]

def ofName (s : String) : ColumnType :=
  match [bool, int2, int4, int8, float4, float8, numeric, date, timestamp, timestamptz,
      uuid].find? fun t ↦ t.name = s with
  | some t => t
  | none => if textNames.contains s then text s else other s

end ColumnType

/-- A value as the type of its placeholder, or the null of that type. -/
inductive Parameter
  | bool (v : Option Bool)
  | int2 (v : Option Int16)
  | int4 (v : Option Int32)
  | int8 (v : Option Int64)
  | float4 (bits : Option UInt32)
  | float8 (v : Option Double)
  | numeric (v : Option Numeric)
  | text (v : Option String)
  | date (v : Option Time.Date)
  | timestamp (v : Option Time.DateTime)
  | timestamptz (v : Option Time.Moment)
  | uuid (digits : Option String)
  | plain (v : Value)

def trimmed (s : String) : List Char := Text.trimBoth s.toList

def asBool? : Value → Option Bool
  | .bool b => some b
  | .int n => if n = 0 then some false else if n = 1 then some true else none
  | .long n => if n = 0 then some false else if n = 1 then some true else none
  | .string s =>
    let word := Text.lower (Text.trim s)
    if ["true", "t", "1", "yes"].contains word then some true
    else if ["false", "f", "0", "no"].contains word then some false
    else none
  | _ => none

/-- Doubles from here on are not taken for whole numbers. -/
def wholeBound : Nat := 9000000000000000000

def asInteger? : Value → Option Int
  | .int n => some n.toInt
  | .long n => some n.toInt
  | .float x => x.whole?.filter fun n ↦ decide (n.natAbs < wholeBound)
  | .string s => (int64? (trimmed s)).map Int64.toInt
  | _ => none

def asDouble? : Value → Option Double
  | .int n => some (.ofRatio (decide (n.toInt < 0)) n.toInt.natAbs 1)
  | .long n => some (.ofRatio (decide (n.toInt < 0)) n.toInt.natAbs 1)
  | .float x => some x
  | .string s => Double.ofText? (trimmed s)
  | _ => none

def asNumeric? : Value → Option Numeric
  | .int n => some (.ofInt n.toInt)
  | .long n => some (.ofInt n.toInt)
  | .float x => Numeric.ofDouble? x
  | .string s => Numeric.ofText? (trimmed s)
  | _ => none

def asDate? : Value → Option Time.Date
  | .date d => some d
  | .dateTime t => some t.date
  | .timestamp t => some t.universal.date
  | .string s => Time.Date.ofText? "%Y-%m-%d" (Text.trim s)
  | _ => none

/-- A date and time in one of two patterns, or a date, which means its midnight. -/
def dateTimeOfText? (s : String) : Option Time.DateTime :=
  ((Time.DateTime.ofText? "%Y-%m-%dT%H:%M:%S%.f" s).orElse fun _ ↦
    Time.DateTime.ofText? "%Y-%m-%d %H:%M:%S%.f" s).orElse fun _ ↦
      (Time.Date.ofText? "%Y-%m-%d" s).map fun d ↦ ⟨d, Time.Clock.midnight⟩

def asDateTime? : Value → Option Time.DateTime
  | .date d => some ⟨d, Time.Clock.midnight⟩
  | .dateTime t => some t
  | .timestamp t => some t.universal
  | .string s => dateTimeOfText? (Text.trim s)
  | _ => none

def asMoment? : Value → Option Time.Moment
  | .timestamp t => some t
  | .string s =>
    (Time.Moment.ofText? (Text.trim s)).orElse fun _ ↦
      (dateTimeOfText? (Text.trim s)).map Time.Moment.mk
  | v => (asDateTime? v).map Time.Moment.mk

def hyphenated? (s : List Char) : Option (List Char) :=
  let groups := Text.piecesAt '-' s
  if groups.map List.length = [8, 4, 4, 4, 12] && groups.all (·.all isHexDigit) then
    some groups.flatten
  else none

/-- The 32 digits of a universally unique identifier: alone, with hyphens, and with hyphens in
braces or behind its URN prefix. -/
def uuidDigits? (s : List Char) : Option (List Char) :=
  if s.length = 32 then if s.all isHexDigit then some s else none
  else if s.length = 36 then hyphenated? s
  else if s.length = 38 then
    match s, s.getLast? with
    | '\x7b' :: r, some '\x7d' => hyphenated? r.dropLast
    | _, _ => none
  else if s.length = 45 && Text.sameLetters (String.ofList (s.take 9)) "urn:uuid:" then
    hyphenated? (s.drop 9)
  else none

def uuidText (digits : List Char) : String :=
  let ds := digits.map Text.asciiLower
  String.ofList (ds.take 8 ++ '-' :: (ds.drop 8).take 4 ++ '-' :: (ds.drop 12).take 4 ++
    '-' :: (ds.drop 16).take 4 ++ '-' :: ds.drop 20)

def asUuid? : Value → Option String
  | .string s => (uuidDigits? (trimmed s)).map uuidText
  | _ => none

/-- The parameter of a value that is not null, if it can be read as its type. -/
def typed? (v : Value) : ColumnType → Option Parameter
  | .bool => (asBool? v).map fun b ↦ .bool (some b)
  | .int2 => ((asInteger? v).filter (fitsSigned 16)).map fun n ↦ .int2 (some (Int16.ofInt n))
  | .int4 => ((asInteger? v).filter (fitsSigned 32)).map fun n ↦ .int4 (some (Int32.ofInt n))
  | .int8 => (asInteger? v).map fun n ↦ .int8 (some (Int64.ofInt n))
  | .float4 => (asDouble? v).map fun x ↦ .float4 (some x.toSingle)
  | .float8 => (asDouble? v).map fun x ↦ .float8 (some x)
  | .numeric => (asNumeric? v).map fun n ↦ .numeric (some n)
  | .text _ => some (.text (some v.text))
  | .date => (asDate? v).map fun d ↦ .date (some d)
  | .timestamp => (asDateTime? v).map fun t ↦ .timestamp (some t)
  | .timestamptz => (asMoment? v).map fun t ↦ .timestamptz (some t)
  | .uuid => (asUuid? v).map fun s ↦ .uuid (some s)
  | .other _ => some (.plain v)

def typedNull : ColumnType → Parameter
  | .bool => .bool none
  | .int2 => .int2 none
  | .int4 => .int4 none
  | .int8 => .int8 none
  | .float4 => .float4 none
  | .float8 => .float8 none
  | .numeric => .numeric none
  | .text _ => .text none
  | .date => .date none
  | .timestamp => .timestamp none
  | .timestamptz => .timestamptz none
  | .uuid => .uuid none
  | .other _ => .plain .null

/-- A value as a type; lists are not parameters. -/
def coerce? (v : Value) (t : ColumnType) : Option Parameter :=
  match v with
  | .list _ => none
  | .null => some (typedNull t)
  | v => typed? v t

/-- The parameters from a position on, or the first value that its type does not take. -/
def bindFrom : Nat → List (Value × ColumnType) → Except SqlError (List Parameter)
  | _, [] => .ok []
  | position, (v, t) :: r =>
    match coerce? v t with
    | none => .error (.parameter position t.name v.text)
    | some p => (bindFrom (position + 1) r).map (p :: ·)

def bindParams (values : List Value) (types : List ColumnType) :
    Except SqlError (List Parameter) :=
  if values.length ≠ types.length then
    .error (.internal ("statement declares " ++ naturalText types.length ++ " parameters but " ++
      naturalText values.length ++ " values were supplied"))
  else bindFrom 1 (values.zip types)

def sendValue : Value → Except SqlError Unit
  | .list _ => .error (.internal "list values must be expanded before binding")
  | _ => .ok ()

def Parameter.send : Parameter → Except SqlError Unit
  | .plain v => sendValue v
  | _ => .ok ()

end Listing.Sql
