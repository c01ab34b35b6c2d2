import Listing.Sql.Error

namespace Listing.Sql

def isNameStart (c : Char) : Bool :=
  ('a' ≤ c && c ≤ 'z') || ('A' ≤ c && c ≤ 'Z') || c = '_'

def isNameChar (c : Char) : Bool := isNameStart c || c.isDigit

def isName : List Char → Bool
  | [] => false
  | c :: r => isNameStart c && r.all isNameChar

def segments (path : String) : List (List Char) := Text.piecesAt '.' path.toList

def isIdentifier (path : String) : Bool := (segments path).all isName

def validate (path : String) : Except SqlError Unit :=
  if isIdentifier path then .ok () else .error (.unsafeIdentifier path)

end Listing.Sql
