import Listing.Value

namespace Listing.Document

def metaCharacters : List Char :=
  ['\\', '.', '+', '*', '?', '(', ')', '|', '[', ']', '\x7b', '\x7d', '^', '$', '#', '&', '-', '~']

def escapeChar (c : Char) : List Char := if metaCharacters.contains c then ['\\', c] else [c]

/-- The part of the expression for one character of the pattern. A character that stands for itself
is written by `escape`. -/
def likeToken (escape : Char → List Char) (c : Char) : List Char :=
  if c = '%' then ['.', '*'] else if c = '_' then ['.'] else escape c

def likeRegexWith (escape : Char → List Char) (pattern : String) : String :=
  String.ofList ('^' :: pattern.toList.flatMap (likeToken escape) ++ ['$'])

def likeRegex (pattern : String) : String := likeRegexWith escapeChar pattern

end Listing.Document
