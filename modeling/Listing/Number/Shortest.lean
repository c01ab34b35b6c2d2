import Listing.Number.Double

namespace Listing.Number

inductive Tie
  | up
  | even
  deriving DecidableEq, Repr

structure Layout where
  tie : Tie
  /-- The decimal exponents that are written without an exponent part. -/
  isPositional : Int → Bool
  /-- Whether a whole number ends in a point and a zero. -/
  keepsPoint : Bool
  plus : String
  nan : String
  infinity : String

/-- The digits of a positive number, none of them a leading or a trailing zero, and the power
of ten that its last digit counts. -/
structure DecimalForm where
  coefficient : Nat
  exponent : Int
  deriving DecidableEq, Repr

def DecimalForm.ofScaled : Nat → Nat → Int → DecimalForm
  | 0, c, e => ⟨c, e⟩
  | fuel + 1, c, e =>
    if c % 10 = 0 && c != 0 then ofScaled fuel (c / 10) (e + 1) else ⟨c, e⟩

/-- The reals that read back as one double: `lo`, `mid` and `hi` are whole numbers over `den`,
and the ends count if `closed`. -/
structure Rounding where
  lo : Nat
  mid : Nat
  hi : Nat
  den : Nat
  closed : Bool

def Rounding.contains (r : Rounding) (num den : Nat) : Bool :=
  let a := num * r.den
  if r.closed then r.lo * den ≤ a && a ≤ r.hi * den else r.lo * den < a && a < r.hi * den

def Rounding.ofDouble (x : Double) : Rounding :=
  let f := BinaryFormat.double
  let (m, q) := f.decode x.magnitude
  let below := if m = Nat.pow 2 f.fractionBits && q != f.minExponent then 1 else 2
  match q - 2 with
  | .ofNat k =>
    let u := Nat.pow 2 k
    ⟨(4 * m - below) * u, 4 * m * u, (4 * m + 2) * u, 1, m % 2 == 0⟩
  | .negSucc k => ⟨4 * m - below, 4 * m, 4 * m + 2, Nat.pow 2 (k + 1), m % 2 == 0⟩

/-- The grid of multiples of `10 ^ e`: the point nearest to the middle that lies in the
interval. -/
def Rounding.gridPoint? (r : Rounding) (tie : Tie) (e : Int) : Option Nat :=
  let (up, down) : Nat × Nat := match e with
    | .ofNat k => (Nat.pow 10 k, 1)
    | .negSucc k => (1, Nat.pow 10 (k + 1))
  let a := r.mid * down
  let b := r.den * up
  let n := a / b
  let rest := a % b
  let low := r.contains (n * up) down
  let high := r.contains ((n + 1) * up) down
  if low && high then
    if 2 * rest < b then some n
    else if b < 2 * rest then some (n + 1)
    else match tie with
      | .up => some (n + 1)
      | .even => some (if n % 2 = 0 then n else n + 1)
  else if low then some n
  else if high then some (n + 1)
  else none

/-- The first of the grids `10 ^ e, 10 ^ (e - 1), …` with a point in the interval. -/
def Rounding.firstPoint (r : Rounding) (tie : Tie) : Nat → Int → DecimalForm
  | 0, e => ⟨0, e⟩
  | fuel + 1, e =>
    match r.gridPoint? tie e with
    | some 0 => r.firstPoint tie fuel (e - 1)
    | some n => DecimalForm.ofScaled 400 n e
    | none => r.firstPoint tie fuel (e - 1)

/-- The digits of a finite double that is not zero. The search starts above its leading digit
and a double has at most 17 digits. -/
def shortest (tie : Tie) (x : Double) : DecimalForm :=
  let r := Rounding.ofDouble x
  let top : Int := (digits r.mid).length - (digits r.den).length + 1
  r.firstPoint tie 24 top

/-- The digits and a decimal point after `point` of them; `point` may lie outside of them. -/
def positional (keepsPoint : Bool) (ds : List Char) (point : Int) : List Char :=
  if point ≤ 0 then '0' :: '.' :: (List.replicate (-point).toNat '0' ++ ds)
  else
    let n := point.toNat
    if ds.length ≤ n then
      ds ++ List.replicate (n - ds.length) '0' ++ (if keepsPoint then ['.', '0'] else [])
    else ds.take n ++ '.' :: ds.drop n

def scientific (plus : String) (ds : List Char) (exponent : Int) : List Char :=
  let mantissa := match ds with
    | d :: e :: r => d :: '.' :: e :: r
    | r => r
  mantissa ++ 'e' :: (if exponent < 0 then [] else plus.toList) ++ integerDigits exponent

def Layout.magnitude (l : Layout) (x : Double) : List Char :=
  if x.isZero then '0' :: (if l.keepsPoint then ['.', '0'] else [])
  else
    let d := shortest l.tie x
    let ds := digits d.coefficient
    let lead := d.exponent + ds.length - 1
    if l.isPositional lead then positional l.keepsPoint ds (lead + 1)
    else scientific l.plus ds lead

def Layout.text (l : Layout) (x : Double) : String :=
  if x.isNaN then l.nan
  else
    (if x.isNegative then "-" else "") ++
      (if x.isInfinite then l.infinity else String.ofList (l.magnitude x))

end Listing.Number
