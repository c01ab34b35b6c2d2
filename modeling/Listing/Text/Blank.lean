namespace Listing.Text

/-- The Unicode property `White_Space`. -/
def isBlank (c : Char) : Bool :=
  let n := c.toNat
  (9 ≤ n && n ≤ 13) || n == 0x20 || n == 0x85 || n == 0xA0 || n == 0x1680 ||
    (0x2000 ≤ n && n ≤ 0x200A) || n == 0x2028 || n == 0x2029 || n == 0x202F ||
    n == 0x205F || n == 0x3000

def trimStart (s : List Char) : List Char := s.dropWhile isBlank

def trimEnd (s : List Char) : List Char := (s.reverse.dropWhile isBlank).reverse

def trimBoth (s : List Char) : List Char := trimEnd (trimStart s)

def trim (s : String) : String := String.ofList (trimBoth s.toList)

def nonBlank? (s : List Char) : Option (List Char) :=
  match trimBoth s with
  | [] => none
  | c :: r => some (c :: r)

def isBlankText (s : String) : Bool := s.toList.all isBlank

@[simp]
theorem toList_trim (s : String) : (trim s).toList = trimBoth s.toList := by
  simp [trim]

end Listing.Text
