import FormulaShader.Binary.Single

/-!
# Reading decimal number text

The number grammar accepted for a formula's `{"num": …}` payload and for a gradient step is

```
Float  ::= Sign? ( "inf" | "infinity" | "nan" | Number )     -- the words in any case
Number ::= ( Digit+ | Digit+ "." Digit* | Digit* "." Digit+ ) Exp?
Exp    ::= ("e" | "E") Sign? Digit+
Sign   ::= "+" | "-"
```

with nothing before or after it. A number is rounded to the nearest value of the target
format (ties to even), so `1e400` is infinity and `1e-400` is zero.

Results:
* `DecimalText.parse?` reads the grammar.
* `DecimalText.toBinary64` and `DecimalText.toBinary32` round a reading.
-/

namespace FormulaShader

/-- A signed decimal reading: a NaN, an infinity, or `digits · 10^exponent`. -/
inductive DecimalText where
  | nan (negative : Bool)
  | infinity (negative : Bool)
  | number (negative : Bool) (digits : Nat) (exponent : Int)
  deriving Repr, DecidableEq

namespace DecimalText

def digitsValue (ds : List Char) : Nat :=
  ds.foldl (fun acc c => acc * 10 + (c.toNat - '0'.toNat)) 0

/-- The ASCII lower-case form of a text, for the case-insensitive words. -/
def lowerAscii (cs : List Char) : List Char := cs.map Char.toLower

/-- Reads an optional exponent part: nothing, or `e`, an optional sign and digits. -/
def parseExponent? : List Char → Option Int
  | [] => some 0
  | c :: rest =>
    if c = 'e' ∨ c = 'E' then
      let (negative, ds) :=
        match rest with
        | '+' :: ds => (false, ds)
        | '-' :: ds => (true, ds)
        | ds => (false, ds)
      if ds.isEmpty || !ds.all Char.isDigit then none
      else
        let v : Int := digitsValue ds
        some (if negative then -v else v)
    else none

/-- Reads the unsigned part of a number: digits, an optional point with digits, and an
optional exponent, with at least one digit before the exponent. -/
def parseUnsigned? (negative : Bool) (cs : List Char) : Option DecimalText :=
  let whole := cs.takeWhile Char.isDigit
  let afterWhole := cs.dropWhile Char.isDigit
  let (frac, afterFrac) :=
    match afterWhole with
    | '.' :: rest => (rest.takeWhile Char.isDigit, rest.dropWhile Char.isDigit)
    | rest => ([], rest)
  if whole.isEmpty && frac.isEmpty then none
  else
    match parseExponent? afterFrac with
    | none => none
    | some e => some (.number negative (digitsValue (whole ++ frac)) (e - frac.length))

/-- Reads the whole text as a number of the grammar. -/
def parse? (s : String) : Option DecimalText :=
  let (negative, rest) :=
    match s.toList with
    | '+' :: rest => (false, rest)
    | '-' :: rest => (true, rest)
    | rest => (false, rest)
  let word := lowerAscii rest
  if word = "inf".toList ∨ word = "infinity".toList then some (.infinity negative)
  else if word = "nan".toList then some (.nan negative)
  else parseUnsigned? negative rest

/-- Bits of the nearest value of format `f`. A decimal point beyond `10^400` is infinite and
one below `10^-400` is zero in every format here, so the exact ratio is only formed between. -/
def roundTo (f : BinaryFormat) : DecimalText → Nat
  | .nan negative => f.quietNaNBits + f.signPart negative
  | .infinity negative => f.infinityBits negative
  | .number negative digits exponent =>
    if digits = 0 then f.signPart negative
    else
      let point : Int := (toString digits).length + exponent
      if point > 400 then f.infinityBits negative
      else if point < -400 then f.signPart negative
      else if 0 ≤ exponent then f.roundRatio negative (digits * Nat.pow 10 exponent.toNat) 1
      else f.roundRatio negative digits (Nat.pow 10 (-exponent).toNat)

/-- The nearest double. -/
def toBinary64 (t : DecimalText) : Binary64 := Binary64.ofBits (t.roundTo BinaryFormat.binary64)

/-- The nearest single. -/
def toBinary32 (t : DecimalText) : Binary32 := Binary32.ofBits (t.roundTo BinaryFormat.binary32)

end DecimalText

end FormulaShader
