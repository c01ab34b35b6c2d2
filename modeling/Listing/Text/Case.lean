import Listing.Text.CaseTable

namespace Listing.Text

def asciiLower (c : Char) : Char := if 'A' ≤ c ∧ c ≤ 'Z' then Char.ofNat (c.toNat + 32) else c

def asciiUpper (c : Char) : Char := if 'a' ≤ c ∧ c ≤ 'z' then Char.ofNat (c.toNat - 32) else c

/-- Equality of texts up to the case of the 26 Latin letters. -/
def sameLetters (s t : String) : Bool := s.toList.map asciiLower == t.toList.map asciiLower

def shifted (runs : List CaseRun) (c : Char) : Char :=
  match runs.find? (·.contains c.toNat) with
  | some r => Char.ofNat (c.toNat + r.shift).toNat
  | none => c

def inRanges (ranges : List (Nat × Nat)) (c : Char) : Bool :=
  ranges.any fun r ↦ r.1 ≤ c.toNat && c.toNat ≤ r.2

def startsCased (s : List Char) : Bool :=
  match s.dropWhile (inRanges caseIgnorableRanges) with
  | [] => false
  | c :: _ => inRanges casedRanges c

def lowerChar (c : Char) : List Char :=
  if c.toNat < 128 then [asciiLower c]
  else if c.toNat = 0x130 then ['i', Char.ofNat 0x307]
  else [shifted lowerRuns c]

/-- A capital sigma ends a word if a cased letter comes before it and none after it. -/
def lowerAfter : List Char → List Char → List Char
  | _, [] => []
  | before, c :: s =>
    (if c.toNat = 0x3A3 then
      (if startsCased before && !startsCased s then [Char.ofNat 0x3C2] else [Char.ofNat 0x3C3])
     else lowerChar c) ++ lowerAfter (c :: before) s

def lower (s : String) : String := String.ofList (lowerAfter [] s.toList)

def upperChar (c : Char) : List Char :=
  if c.toNat < 128 then [asciiUpper c]
  else match upperExpansions.lookup c.toNat with
    | some cs => cs.map Char.ofNat
    | none => [shifted upperRuns c]

def upper (s : String) : String := String.ofList (s.toList.flatMap upperChar)

end Listing.Text
