import Listing.Number.Double

namespace Listing.Number

structure Numeric where
  negative : Bool
  coefficient : Nat
  scale : Nat
  deriving DecidableEq, Repr

namespace Numeric

def limit : Nat := Nat.pow 2 96

def maxScale : Nat := 28

def ofParts (negative : Bool) (coefficient scale : Nat) : Numeric :=
  ⟨negative && coefficient != 0, coefficient, scale⟩

def ofInt (n : Int) : Numeric := ofParts (decide (n < 0)) n.natAbs 0

def chars (n : Numeric) : List Char :=
  let ds := paddedDigits (n.scale + 1) n.coefficient
  let whole := ds.take (ds.length - n.scale)
  let fraction := ds.drop (ds.length - n.scale)
  (if n.negative then ['-'] else []) ++ whole ++ (if fraction.isEmpty then [] else '.' :: fraction)

def text (n : Numeric) : String := String.ofList n.chars

/-- What has been read of a number: its digits so far, how many of them are behind the point,
whether the point and any digit were seen. -/
structure Progress where
  coefficient : Nat := 0
  scale : Nat := 0
  point : Bool := false
  anyDigit : Bool := false

/-- Ends a number for whose other digits there is no room: the first of them rounds the number, a
half going up, and a coefficient that has become too large loses its last digit. Only digits and
underscores may be left. -/
def roundAt (negative : Bool) (p : Progress) (rest : List Char) : Option Numeric :=
  if rest.all fun c ↦ c.isDigit || c = '_' then
    let roundsUp := match rest.find? Char.isDigit with
      | some c => decide (5 ≤ digitValue c)
      | none => false
    let c := if roundsUp then p.coefficient + 1 else p.coefficient
    if c < limit then some (ofParts negative c p.scale)
    else if p.scale = 0 then none
    else some (ofParts negative ((c + 4) / 10) (p.scale - 1))
  else none

def readDigits (negative : Bool) : Progress → List Char → Option Numeric
  | p, [] => if p.anyDigit then some (ofParts negative p.coefficient p.scale) else none
  | p, c :: r =>
    if p.point && maxScale ≤ p.scale then roundAt negative p (c :: r)
    else if c.isDigit then
      let n := 10 * p.coefficient + digitValue c
      if n < limit then
        readDigits negative
          { p with coefficient := n, scale := if p.point then p.scale + 1 else 0, anyDigit := true } r
      else if p.point then roundAt negative p (c :: r)
      else none
    else if c = '.' && !p.point then readDigits negative { p with point := true } r
    else if c = '_' && p.anyDigit then readDigits negative p r
    else none

def plain? : List Char → Option Numeric
  | '-' :: r => readDigits true {} r
  | '+' :: r => readDigits false {} r
  | r => readDigits false {} r

def dropDigits (count coefficient : Nat) : Nat :=
  (2 * coefficient + Nat.pow 10 count) / (2 * Nat.pow 10 count)

/-- The number times a power of ten of at most 28, up or down. A larger power than the fraction
has digits makes the number whole. Digits that would come too far behind the point are rounded
away, the sign staying even if nothing else is left. -/
def shift? (n : Numeric) (exponent : Int) : Option Numeric :=
  let scale : Int := n.scale - exponent
  if maxScale < exponent.natAbs then none
  else if (maxScale : Int) < scale then
    some ⟨n.negative, dropDigits (scale - maxScale).toNat n.coefficient, maxScale⟩
  else if 0 ≤ scale then some { n with scale := scale.toNat }
  else
    let c := n.coefficient * Nat.pow 10 (-scale).toNat
    if c < limit then some (ofParts n.negative c 0) else none

def exponentBound : Nat := UInt32.size - 1

def exponentValue? : List Char → Option Int
  | '-' :: r => (naturalUpTo? exponentBound r).map fun n ↦ -(n : Int)
  | r => (naturalUpTo? exponentBound r).map fun n ↦ (n : Int)

def scientific? (s : List Char) : Option Numeric := do
  let isMark := fun c : Char ↦ c = 'e' || c = 'E'
  match s.dropWhile fun c ↦ !isMark c with
  | [] => none
  | _ :: e => (← plain? (s.takeWhile fun c ↦ !isMark c)).shift? (← exponentValue? e)

def ofText? (s : List Char) : Option Numeric := (plain? s).orElse fun _ ↦ scientific? s

/-- A coefficient under construction, for a value `coefficient · 2 ^ two · 10 ^ ten`. -/
structure Scaling where
  coefficient : Nat
  ten : Int

/-- Takes out `n` factors of one half: by halving while that is exact, else by a factor of five
and a tenth, or at last by halving with loss. -/
def absorbHalves : Nat → Scaling → Scaling
  | 0, s => s
  | n + 1, s =>
    if s.coefficient % 2 = 0 then absorbHalves n ⟨s.coefficient / 2, s.ten + 1⟩
    else if 5 * s.coefficient < limit then absorbHalves n ⟨5 * s.coefficient, s.ten⟩
    else absorbHalves n ⟨s.coefficient / 2, s.ten + 1⟩

def dropDigit (s : Scaling) : Scaling := ⟨dropDigits 1 s.coefficient, s.ten + 1⟩

def fitScale : Nat → Scaling → Scaling
  | 0, s => s
  | fuel + 1, s =>
    if s.ten < -(maxScale : Int) then
      if s.coefficient / 10 = 0 then ⟨0, 0⟩ else fitScale fuel (dropDigit s)
    else s

def fitPrecision : Nat → Scaling → Scaling
  | 0, s => s
  | fuel + 1, s =>
    if s.ten < 0 && Nat.pow 2 52 ≤ s.coefficient then fitPrecision fuel (dropDigit s) else s

def dropZeros : Nat → Scaling → Scaling
  | 0, s => s
  | fuel + 1, s =>
    if s.ten < 0 && s.coefficient % 10 = 0 then dropZeros fuel ⟨s.coefficient / 10, s.ten + 1⟩
    else s

/-- The decimal number of a double: whole numbers as they are, if there is room for them, and
fractions to the 15 or 16 digits that a double is good for. A fraction that is too small for any
digit keeps its sign. -/
def ofDouble? (x : Double) : Option Numeric :=
  if !x.isFinite then none
  else if x.isZero then some ⟨x.isNegative, 0, 0⟩
  else
    match BinaryFormat.double.decode x.magnitude with
    | (m, .ofNat k) =>
      let c := m * Nat.pow 2 k
      if c < limit then some ⟨x.isNegative, c, 0⟩ else none
    | (m, .negSucc k) =>
      let s := absorbHalves (k + 1) ⟨m, .negSucc k⟩
      let s := dropZeros 40 (fitPrecision 40 (fitScale 1200 s))
      some ⟨x.isNegative, s.coefficient, (-s.ten).toNat⟩

end Numeric

end Listing.Number
