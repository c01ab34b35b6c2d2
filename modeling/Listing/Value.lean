import Listing.Json.Printer
import Listing.Text.Case
import Listing.Text.Pieces
import Listing.Time.Text

namespace Listing

open Number

inductive Value
  | null
  | bool (b : Bool)
  | int (n : Int32)
  | long (n : Int64)
  | float (x : Double)
  | string (s : String)
  | date (d : Time.Date)
  | dateTime (t : Time.DateTime)
  | timestamp (t : Time.Moment)
  | list (items : List Value)
  deriving Inhabited

namespace Value

def isNull : Value → Bool
  | null => true
  | _ => false

def asString? : Value → Option String
  | string s => some s
  | _ => none

def asList? : Value → Option (List Value)
  | list items => some items
  | _ => none

/-- A list's items; null has none and any other value is the only one. -/
def members : Value → List Value
  | list items => items
  | null => []
  | v => [v]

def ofOption {α : Type} (f : α → Value) : Option α → Value
  | some a => f a
  | none => null

/-- Doubles in plain positional notation, whole ones without a point. -/
def floatLayout : Layout where
  tie := .up
  isPositional _ := true
  keepsPoint := false
  plus := ""
  nan := "NaN"
  infinity := "inf"

mutual

def text : Value → String
  | null => "null"
  | bool b => if b then "true" else "false"
  | int n => integerText n.toInt
  | long n => integerText n.toInt
  | float x => floatLayout.text x
  | string s => s
  | date d => d.text
  | dateTime t => t.text ' '
  | timestamp t => t.text "+00:00"
  | list items => "[" ++ itemsText items ++ "]"

def itemsText : List Value → String
  | [] => ""
  | [v] => text v
  | v :: w :: r => text v ++ ", " ++ itemsText (w :: r)

end

mutual

def jsonText : Value → String
  | null => "null"
  | bool b => if b then "true" else "false"
  | int n => integerText n.toInt
  | long n => integerText n.toInt
  | float x => if x.isFinite then Json.floatLayout.text x else "null"
  | string s => (Json.text s).print
  | date d => (Json.text d.text).print
  | dateTime t => (Json.text (t.text 'T')).print
  | timestamp t => (Json.text (t.text "Z")).print
  | list items => "[" ++ itemsJson items ++ "]"

def itemsJson : List Value → String
  | [] => ""
  | [v] => jsonText v
  | v :: w :: r => jsonText v ++ "," ++ itemsJson (w :: r)

end

def dropMinus : List Char → List Char
  | '-' :: r => r
  | s => s

def isIntegerLiteral (s : List Char) : Bool := isDigits (dropMinus s)

def isDecimalLiteral (s : List Char) : Bool :=
  match Text.cut? ['.'] (dropMinus s) with
  | some (whole, fraction) => isDigits whole && isDigits fraction
  | none => false

/-- Integer literals of this length and longer become 64-bit numbers. -/
def longLength : Nat := 10

/-- Reads a raw text by its looks: a truth value, an integer, a decimal number or else a string.
Only an integer beyond 64 bits has no value. -/
def sniff? (raw : String) : Option Value :=
  let s := raw.toList
  if Text.sameLetters raw "true" then some (bool true)
  else if Text.sameLetters raw "false" then some (bool false)
  else if isIntegerLiteral s then
    if s.length < longLength then (int32? s).map int else (int64? s).map long
  else if isDecimalLiteral s then
    match Double.ofText? s with
    | some x => some (float x)
    | none => some (string raw)
  else some (string raw)

/-- Reads a raw text as a number if it is one, in the narrowest type that holds it. -/
def ofNumeral (raw : String) : Value :=
  let s := raw.toList
  if '.' ∈ s then
    match Double.ofText? s with
    | some x => float x
    | none => string raw
  else match integer? s with
    | none => string raw
    | some n =>
      if fitsSigned 32 n then int (Int32.ofInt n)
      else if fitsSigned 64 n then long (Int64.ofInt n)
      else string raw

end Value

end Listing
