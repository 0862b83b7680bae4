import FormulaShader.Decimal.Layout

/-!
# Float literals in shader text

A shader literal is a single-precision value written so that it reads back as itself and
always as a float: an integral value is written as its exact integer with `.0`, any other
value with its shortest digits, positionally, however small or large.

Results:
* `Binary32.literalText`: the text of a literal; NaN and the infinities, which no literal
  can hold, are spelled `NaN`, `inf` and `-inf`.
-/

namespace FormulaShader

/-- The exact integer of an integral value written `m · 2^e`. -/
def integralPart (m : Nat) (e : Int) : Nat :=
  if 0 ≤ e then m * Nat.pow 2 e.toNat else m / Nat.pow 2 (-e).toNat

/-- The text of a single as a shader float literal. -/
def Binary32.literalText (x : Binary32) : String :=
  match x.value with
  | .finite negative m e =>
    if x.isIntegral then (if negative then "-" else "") ++ toString (integralPart m e) ++ ".0"
    else x.format FloatLayout.plain
  | _ => x.format FloatLayout.plain

end FormulaShader
