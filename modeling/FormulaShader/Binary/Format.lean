/-!
# IEEE 754 binary interchange formats

A binary format is fixed by the widths of its exponent and fraction fields. A bit pattern of
the format stands for a NaN, a signed infinity, or a signed finite value
`mantissa · 2^exponent` (zero included). Everything here is exact arithmetic on `Nat` and
`Int`, so the rounding of every conversion in the library is a definition that can be
reasoned about.

Results:
* `BinaryFormat.decode` reads a bit pattern as a `BinaryValue`.
* `BinaryFormat.roundRatio` rounds an exact ratio `num / den` to the nearest value of the
  format: a tie goes to the even mantissa, a magnitude past the largest finite value goes
  to infinity, and one below half the smallest subnormal goes to zero.
* `BinaryFormat.roundScaled` rounds an exact `mantissa · 2^exponent` the same way.
-/

namespace FormulaShader

/-- An IEEE 754 binary interchange format, fixed by the widths of its stored fraction field and
of its biased exponent field. -/
structure BinaryFormat where
  fractionBits : Nat
  exponentBits : Nat
  deriving Repr, DecidableEq

/-- What a bit pattern stands for: the finite value is `± mantissa · 2^exponent`. -/
inductive BinaryValue where
  | nan
  | infinite (negative : Bool)
  | finite (negative : Bool) (mantissa : Nat) (exponent : Int)
  deriving Repr, DecidableEq

namespace BinaryFormat

def binary32 : BinaryFormat := ⟨23, 8⟩

def binary64 : BinaryFormat := ⟨52, 11⟩

/-- Significant bits of a normal value, the hidden bit included. -/
def precision (f : BinaryFormat) : Nat := f.fractionBits + 1

def bias (f : BinaryFormat) : Nat := Nat.pow 2 (f.exponentBits - 1) - 1

/-- The all-ones biased exponent, kept for infinities and NaNs. -/
def exponentMask (f : BinaryFormat) : Nat := Nat.pow 2 f.exponentBits - 1

def signBit (f : BinaryFormat) : Nat := f.fractionBits + f.exponentBits

/-- Weight of the last mantissa bit of the subnormals and the smallest normals. -/
def minQuantum (f : BinaryFormat) : Int := 1 - (f.bias : Int) - f.fractionBits

/-- Weight of the last mantissa bit of the largest finite values. -/
def maxQuantum (f : BinaryFormat) : Int := (f.bias : Int) - f.fractionBits

def signPart (f : BinaryFormat) (negative : Bool) : Nat :=
  if negative then Nat.pow 2 f.signBit else 0

def infinityBits (f : BinaryFormat) (negative : Bool) : Nat :=
  f.signPart negative + f.exponentMask * Nat.pow 2 f.fractionBits

def quietNaNBits (f : BinaryFormat) : Nat :=
  f.exponentMask * Nat.pow 2 f.fractionBits + Nat.pow 2 (f.fractionBits - 1)

/-- Reads a bit pattern. Subnormals keep the smallest exponent; normals get their hidden bit. -/
def decode (f : BinaryFormat) (bits : Nat) : BinaryValue :=
  let negative := bits.testBit f.signBit
  let biased := (bits / Nat.pow 2 f.fractionBits) % Nat.pow 2 f.exponentBits
  let fraction := bits % Nat.pow 2 f.fractionBits
  if biased = f.exponentMask then
    if fraction = 0 then .infinite negative else .nan
  else if biased = 0 then
    .finite negative fraction f.minQuantum
  else
    .finite negative (fraction + Nat.pow 2 f.fractionBits) ((biased : Int) + f.minQuantum - 1)

/-- Bits of `± mantissa · 2^exponent` for a mantissa below `2^precision` and an exponent in
range; a mantissa below `2^fractionBits` is a subnormal and takes the exponent field zero. -/
def pack (f : BinaryFormat) (negative : Bool) (mantissa : Nat) (exponent : Int) : Nat :=
  if mantissa < Nat.pow 2 f.fractionBits then
    f.signPart negative + mantissa
  else
    f.signPart negative + (exponent - f.minQuantum + 1).toNat * Nat.pow 2 f.fractionBits
      + (mantissa - Nat.pow 2 f.fractionBits)

def ratioBelowPow2 (num den : Nat) (k : Int) : Bool :=
  if 0 ≤ k then decide (num < den * Nat.pow 2 k.toNat) else decide (num * Nat.pow 2 (-k).toNat < den)

/-- `⌊log₂ (num / den)⌋` for positive `num` and `den`: the difference of the bit lengths is
right or one too large. -/
def floorLog2Ratio (num den : Nat) : Int :=
  let l : Int := (num.log2 : Int) - den.log2
  if ratioBelowPow2 num den l then l - 1 else l

/-- The nearest natural number to `num / den`, a tie going to the even one. -/
def roundHalfEven (num den : Nat) : Nat :=
  let q := num / den
  let r := num % den
  if 2 * r > den ∨ (2 * r = den ∧ q % 2 = 1) then q + 1 else q

/-- Rounds `± num / den` to the format: the weight of the last kept bit is the larger of
`⌊log₂ x⌋ - fractionBits` and the subnormal weight; a carry into a new bit moves the weight
up by one, and a weight past the largest finite one is an overflow to infinity. -/
def roundRatio (f : BinaryFormat) (negative : Bool) (num den : Nat) : Nat :=
  if num = 0 ∨ den = 0 then f.signPart negative
  else
    let q := max (floorLog2Ratio num den - f.fractionBits) f.minQuantum
    let m :=
      if 0 ≤ q then roundHalfEven num (den * Nat.pow 2 q.toNat)
      else roundHalfEven (num * Nat.pow 2 (-q).toNat) den
    let (m, q) := if m = Nat.pow 2 f.precision then (m / 2, q + 1) else (m, q)
    if q > f.maxQuantum then f.infinityBits negative else f.pack negative m q

/-- Rounds the exact value `± mantissa · 2^exponent` to the format. -/
def roundScaled (f : BinaryFormat) (negative : Bool) (mantissa : Nat) (exponent : Int) : Nat :=
  if 0 ≤ exponent then f.roundRatio negative (mantissa * Nat.pow 2 exponent.toNat) 1
  else f.roundRatio negative mantissa (Nat.pow 2 (-exponent).toNat)

end BinaryFormat

end FormulaShader
