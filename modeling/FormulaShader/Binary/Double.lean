import FormulaShader.Binary.Format

/-!
# Double-precision values

A `Binary64` is kept as its bit pattern, so a NaN keeps its payload and `-0.0` stays apart
from `0.0`. Arithmetic is the exact result rounded by `BinaryFormat.roundRatio`, which is
what IEEE 754 asks of a multiplication or a division.

Results:
* `Binary64.ofRatio`, `Binary64.ofNat`, `Binary64.ofInt`: correctly rounded conversions.
* `Binary64.mul`, `Binary64.div`: IEEE products and quotients, special values included.
* `Binary64.isIntegral` and `Binary64.truncate`: the fractional-part test and the cast to
  an integer toward zero.
-/

namespace FormulaShader

/-- A double-precision value, kept as its IEEE 754 bit pattern. -/
structure Binary64 where
  bits : UInt64
  deriving DecidableEq, Repr, Inhabited

namespace Binary64

open BinaryFormat

def value (x : Binary64) : BinaryValue := binary64.decode x.bits.toNat

def ofBits (n : Nat) : Binary64 := ⟨UInt64.ofNat n⟩

/-- The nearest double to `± num / den`. -/
def ofRatio (negative : Bool) (num den : Nat) : Binary64 :=
  ofBits (binary64.roundRatio negative num den)

/-- The nearest double to `± mantissa · 2^exponent`. -/
def ofScaled (negative : Bool) (mantissa : Nat) (exponent : Int) : Binary64 :=
  ofBits (binary64.roundScaled negative mantissa exponent)

/-- The nearest double to a natural number. -/
def ofNat (n : Nat) : Binary64 := ofRatio false n 1

/-- The nearest double to an integer; zero is `+0.0`. -/
def ofInt (i : Int) : Binary64 := ofRatio (decide (i < 0)) i.natAbs 1

def zero : Binary64 := ofBits 0

/-- The quiet NaN with an empty payload and a clear sign. -/
def nan : Binary64 := ofBits binary64.quietNaNBits

def infinity (negative : Bool) : Binary64 := ofBits (binary64.infinityBits negative)

/-- Whether the sign bit is set; true of `-0.0` and of a NaN with its sign bit set. -/
def signBitSet (x : Binary64) : Bool := x.bits.toNat.testBit binary64.signBit

def neg (x : Binary64) : Binary64 :=
  ofBits (x.bits.toNat ^^^ Nat.pow 2 binary64.signBit)

def isNaN (x : Binary64) : Bool :=
  match x.value with
  | .nan => true
  | _ => false

def isFinite (x : Binary64) : Bool :=
  match x.value with
  | .finite .. => true
  | _ => false

def isZero (x : Binary64) : Bool :=
  match x.value with
  | .finite _ 0 _ => true
  | _ => false

/-- The IEEE product. -/
def mul (x y : Binary64) : Binary64 :=
  match x.value, y.value with
  | .nan, _ | _, .nan => nan
  | .infinite a, .infinite b => infinity (a != b)
  | .infinite a, .finite b m _ | .finite b m _, .infinite a =>
    if m = 0 then nan else infinity (a != b)
  | .finite a m e, .finite b n d => ofScaled (a != b) (m * n) (e + d)

/-- The IEEE quotient. -/
def div (x y : Binary64) : Binary64 :=
  match x.value, y.value with
  | .nan, _ | _, .nan => nan
  | .infinite _, .infinite _ => nan
  | .infinite a, .finite b _ _ => infinity (a != b)
  | .finite a _ _, .infinite b => ofRatio (a != b) 0 1
  | .finite a m e, .finite b n d =>
    if n = 0 then (if m = 0 then nan else infinity (a != b))
    else if 0 ≤ e - d then ofRatio (a != b) (m * Nat.pow 2 (e - d).toNat) n
    else ofRatio (a != b) m (n * Nat.pow 2 (d - e).toNat)

/-- Whether the value is finite with no fractional part. -/
def isIntegral (x : Binary64) : Bool :=
  match x.value with
  | .finite _ m e => 0 ≤ e || m % Nat.pow 2 (-e).toNat == 0
  | _ => false

/-- The integer part, rounding toward zero; NaN and infinities give zero. -/
def truncate (x : Binary64) : Int :=
  match x.value with
  | .finite negative m e =>
    let n : Nat := if 0 ≤ e then m * Nat.pow 2 e.toNat else m / Nat.pow 2 (-e).toNat
    if negative then -(n : Int) else n
  | _ => 0

/-- Whether the magnitude is below `num / den`; false for NaN and infinities. -/
def magnitudeBelow (x : Binary64) (num den : Nat) : Bool :=
  match x.value with
  | .finite _ m e =>
    if 0 ≤ e then decide (m * Nat.pow 2 e.toNat * den < num)
    else decide (m * den < num * Nat.pow 2 (-e).toNat)
  | _ => false

end Binary64

end FormulaShader
