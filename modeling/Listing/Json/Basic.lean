import Listing.Number.Shortest

namespace Listing

open Number

/-- The parts of a number literal: digits before the point, digits after it, and the exponent. -/
structure JsonLiteral where
  negative : Bool
  whole : List Char
  fraction : Option (List Char)
  exponent : Option (Bool × List Char)
  deriving DecidableEq, Repr

inductive Json
  | null
  | bool (b : Bool)
  | number (literal : JsonLiteral)
  | string (text : Option String)
  | array (items : List Json)
  | object (members : List (Option String × Json))

/-- The value of a number: a whole number of 64 bits, or a double. -/
inductive JsonNumber
  | whole (n : Int)
  | float (x : Double)
  deriving DecidableEq, Repr

namespace Json

/-- Doubles keep a point, and exponents from 16 on and below -5 are written with a sign. -/
def floatLayout : Layout where
  tie := .even
  isPositional e := -5 ≤ e && e < 16
  keepsPoint := true
  plus := "+"
  nan := "null"
  infinity := "null"

def text (s : String) : Json := .string (some s)

def optionalText : Option String → Json
  | some s => text s
  | none => .null

def ofInt (n : Int) : Json := .number ⟨decide (n < 0), digits n.natAbs, none, none⟩

def record (members : List (String × Json)) : Json :=
  .object (members.map fun m ↦ (some m.1, m.2))

end Json

end Listing
