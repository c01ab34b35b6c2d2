import Listing.Json.Basic

namespace Listing

open Number

namespace Json

def maxNatural : Nat := UInt64.size - 1

def maxPower : Nat := 308

/-- The digits up to the first with which the number would not fit 64 unsigned bits. -/
def leadingDigits : Nat → List Char → Nat × List Char
  | n, [] => (n, [])
  | n, c :: r =>
    if 10 * n + digitValue c ≤ maxNatural then leadingDigits (10 * n + digitValue c) r
    else (n, c :: r)

def powerOfTen (k : Nat) : Double := .ofNat (Nat.pow 10 k)

def times (x y : Double) : Double :=
  .ofRatio false (x.ratio.1 * y.ratio.1) (x.ratio.2 * y.ratio.2)

def quotient (x y : Double) : Double :=
  .ofRatio false (x.ratio.1 * y.ratio.2) (x.ratio.2 * y.ratio.1)

def scaleDown : Nat → Double → Nat → Double
  | 0, x, k => quotient x (powerOfTen (min k maxPower))
  | fuel + 1, x, k =>
    if k ≤ maxPower then quotient x (powerOfTen k)
    else if x.isZero then x
    else scaleDown fuel (quotient x (powerOfTen maxPower)) (k - maxPower)

/-- The double `significand · 10 ^ exponent`, unless it is too large. -/
def scale? (significand : Nat) (exponent : Int) : Option Double :=
  let x := Double.ofNat significand
  match exponent with
  | .ofNat k =>
    if k ≤ maxPower then (some (times x (powerOfTen k))).filter Double.isFinite
    else if x.isZero then some x
    else none
  | .negSucc k => some (scaleDown 5 x (k + 1))

def maxExponent : Nat := 0x7FFFFFFF

/-- Exponents beyond 32 bits are taken at that bound. -/
def clampExponent (e : Int) : Int := max (-maxExponent - 1) (min maxExponent e)

def signed (negative : Bool) (x : Double) : JsonNumber := .float (.ofParts negative x.magnitude)

/-- The value of a literal that is written with a fraction, an exponent or too many digits. -/
def floatValue? (l : JsonLiteral) : Option JsonNumber :=
  let (n, dropped) := leadingDigits 0 l.whole
  let (n, unread) := leadingDigits n (l.fraction.getD [])
  let start : Int := dropped.length - ((l.fraction.getD []).length - unread.length : Nat)
  let value := match l.exponent with
    | none => scale? n start
    | some (negative, ds) =>
      if maxExponent < ofDigits ds then
        if n = 0 || negative then some (.ofParts false 0) else none
      else scale? n (clampExponent (if negative then start - ofDigits ds else start + ofDigits ds))
  value.map (signed l.negative)

/-- The value of a literal; minus zero is a double. -/
def numberValue? (l : JsonLiteral) : Option JsonNumber :=
  match l.fraction, l.exponent with
  | none, none =>
    let n := ofDigits l.whole
    if l.negative then
      if n = 0 then some (signed true (.ofParts false 0))
      else if n ≤ Nat.pow 2 63 then some (.whole (-(n : Int)))
      else if n ≤ maxNatural then some (signed true (.ofNat n))
      else floatValue? l
    else if n ≤ maxNatural then some (.whole n)
    else floatValue? l
  | _, _ => floatValue? l

end Json

def JsonNumber.text : JsonNumber → String
  | .whole n => integerText n
  | .float x => Json.floatLayout.text x

end Listing
