import FormulaShader.Decimal.Shortest
import FormulaShader.Binary.Single

/-!
# Laying out a decimal

The digits a printer chooses are laid out in positional notation (`0.00015`, `1500.0`) or in
scientific notation (`1.5e-4`, `1.5e+3`). Which one, how many digits stand after the point,
and how special values are spelled differ from printer to printer; a `FloatLayout` records
those decisions, and `FloatLayout.render` applies them to a binary value.

The point of a decimal is where its digits sit: the value is `0.d₁d₂… · 10^point`.

Results:
* `FloatLayout.json`: the layout of a float in JSON text.
* `FloatLayout.plain`: positional notation for every value.
* `FloatLayout.dump`: the layout of a float in a structural dump.
-/

namespace FormulaShader

namespace Decimal

def digitText (d : Decimal) : String := toString d.digits

/-- Where the point stands relative to the digits: the value is `0.digits · 10^point`. -/
def point (d : Decimal) : Int := (d.digitText.length : Int) + d.exponent

def zeros (n : Nat) : String := String.ofList (List.replicate n '0')

/-- Positional notation with at least `minFraction` digits after the point. -/
def positional (d : Decimal) (minFraction : Nat) : String :=
  let s := d.digitText
  let n := s.length
  let p := d.point
  let padFraction (frac : String) : String :=
    if frac.length < minFraction then frac ++ zeros (minFraction - frac.length) else frac
  let withFraction (whole frac : String) : String :=
    let frac := padFraction frac
    if frac.isEmpty then whole else whole ++ "." ++ frac
  if d.digits = 0 then withFraction "0" ""
  else if p ≤ 0 then withFraction "0" (zeros (-p).toNat ++ s)
  else if n ≤ p.toNat then withFraction (s ++ zeros (p.toNat - n)) ""
  else withFraction (String.ofList (s.toList.take p.toNat)) (String.ofList (s.toList.drop p.toNat))

/-- Scientific notation `d.ddd` then `e` and the exponent; `plus` writes a `+` before an
exponent that is not negative. -/
def scientific (d : Decimal) (plus : Bool) : String :=
  let s := d.digitText.toList
  let e := d.point - 1
  let mantissa :=
    match s with
    | [] => "0"
    | [c] => String.ofList [c]
    | c :: rest => String.ofList (c :: '.' :: rest)
  let sign := if e < 0 then "-" else if plus then "+" else ""
  mantissa ++ "e" ++ sign ++ toString e.natAbs

end Decimal

/-- How a printer writes a binary floating-point value. With `window = some (low, high)` a
nonzero value whose point `p` has `low < p ≤ high` is written positionally and any other in
scientific notation; `none` writes every value positionally. Positional notation has at least
`minFraction` digits after the point. -/
structure FloatLayout where
  tie : TieBreak
  window : Option (Int × Int)
  minFraction : Nat
  exponentPlus : Bool
  nanText : String
  infinityText : String

namespace FloatLayout

/-- JSON text: nearest shortest digits with ties to even, positional from `0.00001` up to
below `10^16` with `.0` on integral values, scientific with a signed exponent elsewhere. -/
def json : FloatLayout := ⟨.toEven, some (-5, 16), 1, true, "NaN", "inf"⟩

/-- Plain text: shortest digits, ties up, positional for every magnitude, no forced fraction. -/
def plain : FloatLayout := ⟨.up, none, 0, false, "NaN", "inf"⟩

/-- A structural dump: shortest digits, ties up, positional from `0.0001` up to below `10^16`
with `.0` on integral values, scientific with an unsigned exponent elsewhere. -/
def dump : FloatLayout := ⟨.up, some (-4, 16), 1, false, "NaN", "inf"⟩

def place (l : FloatLayout) (d : Decimal) : String :=
  match l.window with
  | none => d.positional l.minFraction
  | some (low, high) =>
    if d.digits = 0 ∨ (low < d.point ∧ d.point ≤ high) then d.positional l.minFraction
    else d.scientific l.exponentPlus

def render (l : FloatLayout) (f : BinaryFormat) : BinaryValue → String
  | .nan => l.nanText
  | .infinite negative => (if negative then "-" else "") ++ l.infinityText
  | .finite negative m q =>
    (if negative then "-" else "") ++ l.place (shortestDecimal f l.tie m q)

end FloatLayout

def Binary64.format (x : Binary64) (l : FloatLayout) : String :=
  l.render BinaryFormat.binary64 x.value

def Binary32.format (x : Binary32) (l : FloatLayout) : String :=
  l.render BinaryFormat.binary32 x.value

end FormulaShader
