import Listing.Json.Number
import Listing.Number.Hexadecimal

namespace Listing.Json

open Number

def escapeChar (c : Char) : List Char :=
  if c = '"' then ['\\', '"']
  else if c = '\\' then ['\\', '\\']
  else if c.toNat = 8 then ['\\', 'b']
  else if c.toNat = 9 then ['\\', 't']
  else if c.toNat = 10 then ['\\', 'n']
  else if c.toNat = 12 then ['\\', 'f']
  else if c.toNat = 13 then ['\\', 'r']
  else if c.toNat < 32 then
    ['\\', 'u', '0', '0', hexDigit (c.toNat / 16), hexDigit (c.toNat % 16)]
  else [c]

def quoted (s : String) : List Char := '"' :: s.toList.flatMap escapeChar ++ ['"']

def literalChars (l : JsonLiteral) : List Char :=
  (if l.negative then ['-'] else []) ++ l.whole ++
    (match l.fraction with
      | some ds => '.' :: ds
      | none => []) ++
    (match l.exponent with
      | some (negative, ds) => 'e' :: (if negative then ['-'] else []) ++ ds
      | none => [])

mutual

def chars : Json → List Char
  | .null => "null".toList
  | .bool true => "true".toList
  | .bool false => "false".toList
  | .number l => literalChars l
  | .string none => "null".toList
  | .string (some s) => quoted s
  | .array items => '[' :: itemChars items ++ [']']
  | .object members => '\x7b' :: memberChars members ++ ['\x7d']

def itemChars : List Json → List Char
  | [] => []
  | [v] => chars v
  | v :: w :: r => chars v ++ ',' :: itemChars (w :: r)

def memberChars : List (Option String × Json) → List Char
  | [] => []
  | [(k, v)] => quoted (k.getD "") ++ ':' :: chars v
  | (k, v) :: m :: r => quoted (k.getD "") ++ ':' :: chars v ++ ',' :: memberChars (m :: r)

end

def print (j : Json) : String := String.ofList (chars j)

end Listing.Json
