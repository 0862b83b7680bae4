import FormulaShader.Binary.Double

/-!
# Single-precision values

WGSL computes in `f32`, so every literal is cast from double to single precision before it is
written. A `Binary32` is kept as its bit pattern; the cast rounds the exact double to the
nearest single, ties to even, and overflows to infinity.

Results:
* `Binary64.toBinary32`: the correctly rounded cast; a NaN stays a NaN.
* `Binary32.double`: `2 · x` rounded, which overflows past half the largest single.
-/

namespace FormulaShader

/-- A single-precision value, kept as its IEEE 754 bit pattern. -/
structure Binary32 where
  bits : UInt32
  deriving DecidableEq, Repr, Inhabited

namespace Binary32

open BinaryFormat

def value (x : Binary32) : BinaryValue := binary32.decode x.bits.toNat

def ofBits (n : Nat) : Binary32 := ⟨UInt32.ofNat n⟩

/-- The nearest single to `± num / den`. -/
def ofRatio (negative : Bool) (num den : Nat) : Binary32 :=
  ofBits (binary32.roundRatio negative num den)

/-- The quiet NaN with an empty payload and a clear sign. -/
def nan : Binary32 := ofBits binary32.quietNaNBits

def infinity (negative : Bool) : Binary32 := ofBits (binary32.infinityBits negative)

/-- Whether the sign bit is set; true of `-0.0`. -/
def signBitSet (x : Binary32) : Bool := x.bits.toNat.testBit binary32.signBit

def isNaN (x : Binary32) : Bool :=
  match x.value with
  | .nan => true
  | _ => false

def isFinite (x : Binary32) : Bool :=
  match x.value with
  | .finite .. => true
  | _ => false

/-- Whether the value is finite with no fractional part. -/
def isIntegral (x : Binary32) : Bool :=
  match x.value with
  | .finite _ m e => 0 ≤ e || m % Nat.pow 2 (-e).toNat == 0
  | _ => false

/-- `2 · x`, rounded: exact for finite values until it passes the largest single. -/
def double (x : Binary32) : Binary32 :=
  match x.value with
  | .nan => x
  | .infinite _ => x
  | .finite negative m e => ofBits (binary32.roundScaled negative m (e + 1))

end Binary32

/-- The cast of a double to the nearest single; a NaN becomes the quiet NaN of its sign. -/
def Binary64.toBinary32 (x : Binary64) : Binary32 :=
  match x.value with
  | .nan => if x.signBitSet then Binary32.ofBits (Binary32.nan.bits.toNat + Nat.pow 2 31) else Binary32.nan
  | .infinite negative => Binary32.infinity negative
  | .finite negative m e => Binary32.ofBits (BinaryFormat.binary32.roundScaled negative m e)

end FormulaShader
