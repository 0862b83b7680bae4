import FormulaShader.Json.Cursor
import FormulaShader.Json.Value

/-!
# Reading JSON numbers

An integer that fits `[0, 2^64)` is read as unsigned, a negative one that fits `[-2^63, 0)`
as signed; `-0` and every other number becomes a double. The double is assembled the way the
reader has always done it, which is not always the nearest double:

* the decimal digits are gathered into a 64-bit significand; once it would overflow, further
  digits of the integer part only raise the exponent and further fraction digits are dropped;
* the significand is converted to the nearest double and then multiplied, or divided, by the
  double nearest to `10^|e|` (for `|e| ≤ 308`), each step rounded;
* below `10^-308` the value is first divided by `1e308` as often as needed, and a product
  that overflows is the error `number out of range`.

An exponent that does not fit 32 bits is zero for a zero significand or a negative
exponent, and out of range otherwise.

Results:
* `JsonRead.number`: a number whose sign, if any, has been taken.
-/

namespace FormulaShader

namespace JsonRead

def maxUnsigned : Nat := Nat.pow 2 64 - 1

def maxExponent : Nat := Nat.pow 2 31 - 1

def pastLimit (acc d limit : Nat) : Bool :=
  acc ≥ limit / 10 && (acc > limit / 10 || d > limit % 10)

/-- A 32-bit sum, stopping at the ends of the range. -/
def saturate (e : Int) : Int :=
  if e < -2147483648 then -2147483648 else if e > 2147483647 then 2147483647 else e

def digitOf (c : Char) : Nat := c.toNat - '0'.toNat

/-- The double nearest to `10^k`. -/
def powerOfTen (k : Nat) : Binary64 := Binary64.ofNat (Nat.pow 10 k)

/-- Scales `f` by `10^e` as the reader does, with at most `fuel` divisions by `1e308`. -/
def scale (f : Binary64) (e : Int) : Nat → JsonRead Binary64
  | 0 => pure f
  | fuel + 1 =>
    if e.natAbs ≤ 308 then
      if 0 ≤ e then
        let g := f.mul (powerOfTen e.natAbs)
        if g.isFinite then pure g else failHere .numberOutOfRange
      else pure (f.div (powerOfTen e.natAbs))
    else if f.isZero then pure f
    else if 0 ≤ e then failHere .numberOutOfRange
    else scale (f.div (powerOfTen 308)) (e + 308) fuel

def fromParts (positive : Bool) (significand : Nat) (exponent : Int) : JsonRead Binary64 := do
  let f ← scale (Binary64.ofNat significand) exponent (exponent.natAbs / 308 + 2)
  pure (if positive then f else f.neg)

def skipDigits : Nat → JsonRead Unit
  | 0 => pure ()
  | fuel + 1 => do
    match ← peek? with
    | some c => if c.isDigit then do bump; skipDigits fuel else pure ()
    | none => pure ()

/-- The exponent digits after the first, at most `fuel` of them; an exponent past 32 bits
ends the number at once. -/
def exponentDigits (positive : Bool) (significand : Nat) (startExp : Int) (positiveExp : Bool) :
    Nat → Nat → JsonRead Binary64
  | 0, exp => fromParts positive significand (saturate (if positiveExp then startExp + exp else startExp - exp))
  | fuel + 1, exp => do
    match ← peek? with
    | some c =>
      if c.isDigit then do
        bump
        if pastLimit exp (digitOf c) maxExponent then
          if significand ≠ 0 && positiveExp then failHere .numberOutOfRange
          else do
            skipDigits ((← get).rest.length)
            pure (if positive then Binary64.zero else Binary64.zero.neg)
        else exponentDigits positive significand startExp positiveExp fuel (exp * 10 + digitOf c)
      else exponentDigits positive significand startExp positiveExp 0 exp
    | none => exponentDigits positive significand startExp positiveExp 0 exp

/-- Reads an exponent part from its `e`: an optional sign and at least one digit. -/
def exponentPart (positive : Bool) (significand : Nat) (startExp : Int) : JsonRead Binary64 := do
  bump
  let positiveExp ← do
    match ← peek? with
    | some '+' => bump; pure true
    | some '-' => bump; pure false
    | _ => pure true
  match ← peek? with
  | none => failHere .eofWhileParsingValue
  | some c =>
    if c.isDigit then do
      bump
      exponentDigits positive significand startExp positiveExp ((← get).rest.length + 1) (digitOf c)
    else failNext .invalidNumber

def finishDouble (positive : Bool) (significand : Nat) (exponent : Int) : JsonRead Binary64 := do
  match ← peek? with
  | some 'e' | some 'E' => exponentPart positive significand exponent
  | _ => fromParts positive significand exponent

def fractionDigits (positive : Bool) (before : Int) :
    Nat → Nat → Nat → JsonRead Binary64
  | 0, significand, count => do
    if count = 0 then
      match ← peek? with
      | some _ => failNext .invalidNumber
      | none => failNext .eofWhileParsingValue
    else finishDouble positive significand (before - count)
  | fuel + 1, significand, count => do
    match ← peek? with
    | some c =>
      if c.isDigit then
        if pastLimit significand (digitOf c) maxUnsigned then do
          skipDigits ((← get).rest.length)
          finishDouble positive significand (before - count)
        else do
          bump
          fractionDigits positive before fuel (significand * 10 + digitOf c) (count + 1)
      else fractionDigits positive before 0 significand count
    | none => fractionDigits positive before 0 significand count

def fractionPart (positive : Bool) (significand : Nat) (before : Int) : JsonRead Binary64 := do
  bump
  fractionDigits positive before ((← get).rest.length + 1) significand 0

/-- Integer digits past the 64-bit significand only raise the exponent. -/
def longInteger (positive : Bool) (significand : Nat) : Nat → Nat → JsonRead Binary64
  | 0, extra => finishDouble positive significand extra
  | fuel + 1, extra => do
    match ← peek? with
    | some c =>
      if c.isDigit then do bump; longInteger positive significand fuel (extra + 1)
      else if c = '.' then fractionPart positive significand extra
      else finishDouble positive significand extra
    | none => finishDouble positive significand extra

/-- The end of an integer's digits: a fraction, an exponent, or an integer value. -/
def afterInteger (positive : Bool) (significand : Nat) : JsonRead JsonNumber := do
  match ← peek? with
  | some '.' => .double <$> fractionPart positive significand 0
  | some 'e' | some 'E' => .double <$> exponentPart positive significand 0
  | _ =>
    if positive then pure (.unsigned significand)
    else if significand = 0 ∨ significand > Nat.pow 2 63 then
      pure (.double (Binary64.ofNat significand).neg)
    else pure (.signed (-(significand : Int)))

def integerDigits (positive : Bool) : Nat → Nat → JsonRead JsonNumber
  | 0, significand => afterInteger positive significand
  | fuel + 1, significand => do
    match ← peek? with
    | some c =>
      if c.isDigit then
        if pastLimit significand (digitOf c) maxUnsigned then
          .double <$> longInteger positive significand ((← get).rest.length + 1) 0
        else do
          bump
          integerDigits positive fuel (significand * 10 + digitOf c)
      else afterInteger positive significand
    | none => afterInteger positive significand

/-- Reads a number whose sign, if any, has been taken: one leading zero at most, then as
above. -/
def number (positive : Bool) : JsonRead JsonNumber := do
  match ← peek? with
  | none => failHere .eofWhileParsingValue
  | some c =>
    if c = '0' then do
      bump
      match ← peek? with
      | some d => if d.isDigit then failNext .invalidNumber else afterInteger positive 0
      | none => afterInteger positive 0
    else if c.isDigit then do
      bump
      integerDigits positive ((← get).rest.length + 1) (digitOf c)
    else failNext .invalidNumber

end JsonRead

end FormulaShader
