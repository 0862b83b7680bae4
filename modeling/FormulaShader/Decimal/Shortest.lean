import FormulaShader.Binary.Format

/-!
# The shortest decimal that reads back

A finite binary value `v = m · 2^q` (with `m > 0`) is read back from every decimal inside
its rounding interval: the reals nearer to `v` than to its neighbours, the two ends included
exactly when `m` is even (a tie reads back to the even mantissa). For one, two, three, …
significant digits the two decimals of that many digits around `v` are tested; the first
count with a hit wins, and of two hits the nearer one. An exact tie between two hits is
settled by a `TieBreak`.

All comparisons are exact comparisons of ratios of natural numbers.

Results:
* `shortestDecimal` gives the digits and the exponent, trailing zeros removed.
-/

namespace FormulaShader

/-- The positive decimal `digits · 10^exponent`. -/
structure Decimal where
  digits : Nat
  exponent : Int
  deriving Repr, DecidableEq, Inhabited

/-- How an exact tie between two equally near shortest decimals is settled: to the one whose
last digit is even, or up. -/
inductive TieBreak where
  | toEven
  | up
  deriving Repr, DecidableEq

namespace Decimal

/-- `a · 2^i · 10^j` as a ratio of natural numbers. -/
def scaledRatio (a : Nat) (i j : Int) : Nat × Nat :=
  (a * Nat.pow 2 i.toNat * Nat.pow 10 j.toNat, Nat.pow 2 (-i).toNat * Nat.pow 10 (-j).toNat)

def ratioLt (x y : Nat × Nat) : Bool := decide (x.1 * y.2 < y.1 * x.2)

def ratioLe (x y : Nat × Nat) : Bool := decide (x.1 * y.2 ≤ y.1 * x.2)

/-- Removes trailing zeros from the digits, raising the exponent to keep the value. -/
def stripZeros (digits : Nat) (exponent : Int) : Decimal :=
  if h : digits ≠ 0 ∧ digits % 10 = 0 then stripZeros (digits / 10) (exponent + 1)
  else ⟨digits, exponent⟩
termination_by digits
decreasing_by omega

/-- Raises an estimate `e` of `⌊log₁₀ v⌋` while `10^(e+1) ≤ v`, at most `fuel` times. -/
def raiseLog10 (v : Nat × Nat) : Nat → Int → Int
  | 0, e => e
  | fuel + 1, e => if ratioLe (scaledRatio 1 0 (e + 1)) v then raiseLog10 v fuel (e + 1) else e

/-- Lowers an estimate `e` of `⌊log₁₀ v⌋` while `v < 10^e`, at most `fuel` times. -/
def lowerLog10 (v : Nat × Nat) : Nat → Int → Int
  | 0, e => e
  | fuel + 1, e => if ratioLt v (scaledRatio 1 0 e) then lowerLog10 v fuel (e - 1) else e

/-- `⌊log₁₀ (m · 2^q)⌋` for `m > 0`: the binary logarithm times `1233 / 4096` is off by at
most one for every exponent of the formats here, and the two corrections remove that. -/
def floorLog10 (m : Nat) (q : Int) : Int :=
  let t : Int := (m.log2 : Int) + q
  let v := scaledRatio m q 0
  lowerLog10 v 3 (raiseLog10 v 3 (t * 1233 / 4096))

/-- The rounding interval of `m · 2^q`, in units of `2^(q-2)`: its ends, and whether they
belong to it. Below the smallest normal mantissa the lower neighbour is half as far. -/
structure Interval where
  low : Nat
  high : Nat
  inclusive : Bool

/-- The rounding interval of the finite value `m · 2^q` of format `f`. -/
def interval (f : BinaryFormat) (m : Nat) (q : Int) : Interval :=
  let lowGap := if m = Nat.pow 2 f.fractionBits ∧ q > f.minQuantum then 1 else 2
  ⟨4 * m - lowGap, 4 * m + 2, m % 2 == 0⟩

/-- Whether `c · 10^k` reads back as `m · 2^q`. -/
def readsBack (iv : Interval) (q : Int) (c : Nat) (k : Int) : Bool :=
  let x := scaledRatio c 0 k
  let lo := scaledRatio iv.low (q - 2) 0
  let hi := scaledRatio iv.high (q - 2) 0
  if iv.inclusive then ratioLe lo x && ratioLe x hi else ratioLt lo x && ratioLt x hi

/-- Tries `n`, `n + 1`, … significant digits, at most `fuel` counts, for the value
`m · 2^q` whose decimal exponent is `top`. -/
def search (f : BinaryFormat) (tie : TieBreak) (m : Nat) (q : Int) (top : Int) :
    Nat → Nat → Decimal
  | 0, _ =>
    if 0 ≤ q then ⟨m * Nat.pow 2 q.toNat, 0⟩ else ⟨m * Nat.pow 5 (-q).toNat, q⟩
  | fuel + 1, n =>
    let iv := interval f m q
    let k : Int := top - n + 1
    let v := scaledRatio m q (-k)
    let c := v.1 / v.2
    let lowHit := readsBack iv q c k
    let highHit := readsBack iv q (c + 1) k
    if lowHit && highHit then
      -- compare `2v` with the midpoint `(2c + 1) · 10^k`
      let twice := (2 * v.1, v.2)
      let mid := (2 * c + 1, 1)
      if ratioLt twice mid then stripZeros c k
      else if ratioLt mid twice then stripZeros (c + 1) k
      else
        match tie with
        | .toEven => if c % 2 == 0 then stripZeros c k else stripZeros (c + 1) k
        | .up => stripZeros (c + 1) k
    else if lowHit then stripZeros c k
    else if highHit then stripZeros (c + 1) k
    else search f tie m q top fuel (n + 1)

end Decimal

/-- The shortest decimal that reads back as the finite value `m · 2^q` of format `f`, the
nearest one of that length, ties settled by `tie`; zero gives the decimal zero. -/
def shortestDecimal (f : BinaryFormat) (tie : TieBreak) (m : Nat) (q : Int) : Decimal :=
  if m = 0 then ⟨0, 0⟩ else Decimal.search f tie m q (Decimal.floorLog10 m q) 40 1

end FormulaShader
