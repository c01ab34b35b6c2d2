import Listing.Number.Binary
import Listing.Number.Decimal

namespace Listing.Number

structure Double where
  bits : UInt64
  deriving DecidableEq, Repr, Inhabited

namespace Double

open BinaryFormat (double single)

def signBit : Nat := Nat.pow 2 63

def magnitude (x : Double) : Nat := x.bits.toNat % signBit

def isNegative (x : Double) : Bool := signBit ≤ x.bits.toNat

def isNaN (x : Double) : Bool := double.infinity < x.magnitude

def isInfinite (x : Double) : Bool := x.magnitude = double.infinity

def isFinite (x : Double) : Bool := x.magnitude < double.infinity

def isZero (x : Double) : Bool := x.magnitude = 0

def ofParts (negative : Bool) (magnitude : Nat) : Double :=
  ⟨UInt64.ofNat ((if negative then signBit else 0) + magnitude)⟩

def infinity (negative : Bool) : Double := ofParts negative double.infinity

def nan : Double := ofParts false (double.infinity + Nat.pow 2 51)

/-- The double nearest to `± num / den`. -/
def ofRatio (negative : Bool) (num den : Nat) : Double := ofParts negative (double.round num den)

def ofNat (n : Nat) : Double := ofRatio false n 1

def ratio (x : Double) : Nat × Nat := double.ratio x.magnitude

/-- The double nearest to a literal. Far outside the range of the format the powers of ten are
not computed: the number is infinite or zero there. -/
def ofLiteral (l : Literal) : Double :=
  let top : Int := (digits l.coefficient).length + l.exponent
  if l.coefficient = 0 || top < -400 then ofParts l.negative 0
  else if top > 400 then infinity l.negative
  else match l.exponent with
    | .ofNat k => ofRatio l.negative (l.coefficient * Nat.pow 10 k) 1
    | .negSucc k => ofRatio l.negative l.coefficient (Nat.pow 10 (k + 1))

def named? (s : List Char) : Option Double :=
  let (negative, name) := match s with
    | '-' :: r => (true, r)
    | '+' :: r => (false, r)
    | r => (false, r)
  match String.ofList (name.map Char.toLower) with
  | "inf" | "infinity" => some (infinity negative)
  | "nan" => some (ofParts negative nan.magnitude)
  | _ => none

def ofText? (s : List Char) : Option Double :=
  match literal? s with
  | some l => some (ofLiteral l)
  | none => named? s

def whole? (x : Double) : Option Int :=
  if !x.isFinite then none
  else
    let (a, b) := x.ratio
    if a % b = 0 then some (if x.isNegative then -(a / b : Nat) else (a / b : Nat)) else none

def toSingle (x : Double) : UInt32 :=
  let sign := if x.isNegative then Nat.pow 2 31 else 0
  if x.isNaN then
    let fraction := x.magnitude % Nat.pow 2 52
    UInt32.ofNat (sign + single.infinity + Nat.pow 2 22 ||| fraction / Nat.pow 2 29)
  else if x.isInfinite then UInt32.ofNat (sign + single.infinity)
  else UInt32.ofNat (sign + single.round x.ratio.1 x.ratio.2)

end Double

end Listing.Number
