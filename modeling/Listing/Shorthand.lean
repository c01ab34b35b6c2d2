import Listing.Text.Blank
import Listing.Text.Pieces
import Listing.Vocabulary

namespace Listing.Shorthand

open Text

/-- The comparison marks in the order in which they are looked for. -/
def comparisonMarks : List (String × Operator) :=
  [(">=", .greaterOrEqual), ("<=", .lessOrEqual), ("<>", .diff), (">", .greater), ("<", .less)]

/-- The first comparison mark that occurs anywhere in a text. -/
def mark? (value : String) : Option (String × Operator) :=
  comparisonMarks.find? fun m ↦ occurs m.1.toList value.toList

def comparisonOperator (value : String) : Operator :=
  match mark? value with
  | some (_, operator) => operator
  | none => .equal

def withoutMark (value : String) : String :=
  match mark? value with
  | some (m, _) => String.ofList (eraseFirst m.toList value.toList)
  | none => value

def comparison (value : String) : Operator × String :=
  (comparisonOperator value, trim (withoutMark value))

/-- The trimmed pieces between delimiters that are not blank. -/
def list (delimiter value : String) : List String :=
  ((pieces delimiter.toList value.toList).filterMap nonBlank?).map String.ofList

def side (s : List Char) : Option String := (nonBlank? s).map String.ofList

/-- The two sides of the first bar. -/
def range? (value : String) : Option (Option String × Option String) :=
  (cut? ['|'] value.toList).map fun p ↦ (side p.1, side p.2)

/-- The first two of the pieces between hyphens and commas, if there is a hyphen or comma. -/
def interval? (value : String) : Option (Option String × Option String) :=
  match piecesAt '-' (replaceChar ',' ['-'] value.toList) with
  | p :: q :: _ => some (side p, side q)
  | _ => none

end Listing.Shorthand
