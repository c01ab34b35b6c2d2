import Listing.Json.Reader

namespace Listing.Json

/-- How many arrays and objects a document may open inside one another. -/
def nestingLimit : Nat := 127

def member? (members : List (Option String × Json)) (key : String) : Option (Option Json) :=
  match members.filter (·.1 = some key) with
  | [] => some none
  | [m] => some (some m.2)
  | _ => none

/-- The parts of an object in the order of `keys`, or of the array that stands for it. -/
def parts? (keys : List String) : Json → Option (List (Option Json))
  | .object members =>
    if members.all (·.1.isSome) then keys.mapM (member? members) else none
  | .array items =>
    if items.length ≤ keys.length then
      some (items.map some ++ List.replicate (keys.length - items.length) none)
    else none
  | _ => none

def orDefault {α : Type} (fallback : α) (read : Json → Option α) : Option Json → Option α
  | none => some fallback
  | some j => read j

def text? : Json → Option String
  | .string s => s
  | _ => none

def nullableText? : Json → Option (Option String)
  | .null => some none
  | .string (some s) => some (some s)
  | _ => none

/-- One word of a list of words, by its name or as an object that maps its name to null. The
number counts the containers that may still be opened. -/
def word? {α : Type} (ofName? : String → Option α) : Nat → Json → Option α
  | _, .string (some s) => ofName? s
  | _ + 1, .object [(some s, .null)] => ofName? s
  | _, _ => none

def readWord? {α : Type} (ofName? : String → Option α) (text : String) : Option α :=
  (read? text).bind (word? ofName? nestingLimit)

end Listing.Json
