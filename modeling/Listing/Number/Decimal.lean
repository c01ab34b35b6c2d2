import Listing.Text.Blank

namespace Listing.Number

def digits (n : Nat) : List Char := Nat.toDigits 10 n

def paddedDigits (width n : Nat) : List Char :=
  List.replicate (width - (digits n).length) '0' ++ digits n

def digitValue (c : Char) : Nat := c.toNat - '0'.toNat

def ofDigits (s : List Char) : Nat := s.foldl (fun n c ↦ 10 * n + digitValue c) 0

def isDigits (s : List Char) : Bool := !s.isEmpty && s.all Char.isDigit

def integerDigits (n : Int) : List Char :=
  if n < 0 then '-' :: digits n.natAbs else digits n.natAbs

def integerText (n : Int) : String := String.ofList (integerDigits n)

def naturalText (n : Nat) : String := String.ofList (digits n)

/-- An optional sign and digits, as an integer of any size. -/
def integer? (s : List Char) : Option Int :=
  match s with
  | '-' :: r => if isDigits r then some (-(ofDigits r : Int)) else none
  | '+' :: r => if isDigits r then some (ofDigits r) else none
  | r => if isDigits r then some (ofDigits r) else none

theorem ofDigits_digits (n : Nat) : ofDigits (digits n) = n :=
  Nat.ofDigitChars_toDigits (by decide) (by decide)

theorem isDigits_digits (n : Nat) : isDigits (digits n) = true := by
  simp only [isDigits, digits, Bool.and_eq_true, Bool.not_eq_true', List.isEmpty_eq_false_iff,
    List.all_eq_true]
  exact ⟨Nat.toDigits_ne_nil, fun c hc ↦ Nat.isDigit_of_mem_toDigits (by decide) (by decide) hc⟩

theorem integer?_integerDigits (n : Int) : integer? (integerDigits n) = some n := by
  unfold integerDigits
  split
  next h =>
    simp only [integer?, isDigits_digits, ofDigits_digits, if_true, Option.some.injEq]
    omega
  next h =>
    have hd := isDigits_digits n.natAbs
    have hn : (n.natAbs : Int) = n := by omega
    unfold integer?
    split
    next hs => simp [hs, isDigits] at hd
    next hs => simp [hs, isDigits] at hd
    next hs => simp [isDigits_digits, ofDigits_digits, hn]

def fitsSigned (bits : Nat) (n : Int) : Bool :=
  decide (-(Nat.pow 2 (bits - 1) : Int) ≤ n) && decide (n < (Nat.pow 2 (bits - 1) : Int))

def signed? (bits : Nat) (s : List Char) : Option Int := (integer? s).filter (fitsSigned bits)

def naturalUpTo? (hi : Nat) (s : List Char) : Option Nat :=
  let r := match s with
    | '+' :: r => r
    | r => r
  if isDigits r && decide (ofDigits r ≤ hi) then some (ofDigits r) else none

def int32? (s : List Char) : Option Int32 := (signed? 32 s).map Int32.ofInt

def int64? (s : List Char) : Option Int64 := (signed? 64 s).map Int64.ofInt

def uint32? (s : List Char) : Option UInt32 :=
  (naturalUpTo? (UInt32.size - 1) s).map UInt32.ofNat

def uint64? (s : List Char) : Option UInt64 :=
  (naturalUpTo? (UInt64.size - 1) s).map UInt64.ofNat

/-- The number `± coefficient · 10 ^ exponent`. -/
structure Literal where
  negative : Bool
  coefficient : Nat
  exponent : Int
  deriving Repr, DecidableEq

/-- An exponent mark, an optional sign and at least one digit; no text is the exponent zero. -/
def exponent? : List Char → Option Int
  | [] => some 0
  | c :: r => if c = 'e' || c = 'E' then integer? r else none

/-- Digits with an optional point among, before or after them, then an optional exponent. -/
def unsignedLiteral? (negative : Bool) (s : List Char) : Option Literal :=
  let whole := s.takeWhile Char.isDigit
  let rest := s.dropWhile Char.isDigit
  let (fraction, rest) := match rest with
    | '.' :: r => (r.takeWhile Char.isDigit, r.dropWhile Char.isDigit)
    | r => ([], r)
  if whole.isEmpty && fraction.isEmpty then none
  else (exponent? rest).map fun e ↦ ⟨negative, ofDigits (whole ++ fraction), e - fraction.length⟩

def literal? : List Char → Option Literal
  | '-' :: r => unsignedLiteral? true r
  | '+' :: r => unsignedLiteral? false r
  | r => unsignedLiteral? false r

end Listing.Number
