namespace Listing.Number

/-- The nearest whole number to `num / den`, a half going to the even neighbour. -/
def roundHalfEven (num den : Nat) : Nat :=
  let q := num / den
  let r := num % den
  if 2 * r < den || (2 * r = den && q % 2 = 0) then q else q + 1

structure BinaryFormat where
  fractionBits : Nat
  exponentBits : Nat

namespace BinaryFormat

def double : BinaryFormat := ⟨52, 11⟩

def single : BinaryFormat := ⟨23, 8⟩

def minExponent (f : BinaryFormat) : Int :=
  2 - (Nat.pow 2 (f.exponentBits - 1) : Int) - f.fractionBits

def infinity (f : BinaryFormat) : Nat := (Nat.pow 2 f.exponentBits - 1) * Nat.pow 2 f.fractionBits

/-- The quotient `num / (den · 2 ^ q)` as a pair. -/
def scaled (num den : Nat) : Int → Nat × Nat
  | .ofNat k => (num, den * Nat.pow 2 k)
  | .negSucc k => (num * Nat.pow 2 (k + 1), den)

/-- The bits of the number nearest to `num / den`. -/
def round (f : BinaryFormat) (num den : Nat) : Nat :=
  if num = 0 then 0
  else
    let guess : Int := max f.minExponent ((num.log2 : Int) - den.log2 - f.fractionBits - 1)
    let (a, b) := scaled num den guess
    let q := if a / b < Nat.pow 2 (f.fractionBits + 1) then guess else guess + 1
    let (a, b) := scaled num den q
    let m := roundHalfEven a b
    let e := (q - f.minExponent).toNat
    min f.infinity (e * Nat.pow 2 f.fractionBits + m)

def decode (f : BinaryFormat) (bits : Nat) : Nat × Int :=
  let e := bits / Nat.pow 2 f.fractionBits
  let fraction := bits % Nat.pow 2 f.fractionBits
  if e = 0 then (fraction, f.minExponent)
  else (Nat.pow 2 f.fractionBits + fraction, f.minExponent + (e - 1 : Nat))

def ratio (f : BinaryFormat) (bits : Nat) : Nat × Nat :=
  match f.decode bits with
  | (m, .ofNat k) => (m * Nat.pow 2 k, 1)
  | (m, .negSucc k) => (m, Nat.pow 2 (k + 1))

end BinaryFormat

end Listing.Number
