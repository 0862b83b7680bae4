import FormulaShader.Shader.Function
import FormulaShader.Compile.Literal

/-!
# The gradient function

For normals the renderer also samples `df(pos)`, the gradient of `f` by finite differences
with offset `h` along each axis. Two formulas exist: the unbalanced one writes
`f(p + h) - f(p - h) / 2h`, which by precedence divides only the second sample and is not
the gradient, but is what earlier renders were made with; the central one writes
`(f(p + h) - f(p - h)) / 2h`. Both numbers are written as literals, `2h` computed in single
precision.

Results:
* `Gradient.module`: the text of `df` for a domain.
-/

namespace FormulaShader

/-- The finite-difference formula of a gradient: `unbalanced` writes `f(p + h) - f(p - h) / 2h`,
`central` writes `(f(p + h) - f(p - h)) / 2h`. -/
inductive GradientMode where
  | unbalanced
  | central
  deriving Repr, DecidableEq, Inhabited

/-- The single nearest to `0.0001`, the offset used unless another is given. -/
def Gradient.defaultStep : Binary32 := Binary32.ofRatio false 1 10000

/-- A gradient emitter: the formula and the offset `h`. -/
structure Gradient where
  mode : GradientMode := .unbalanced
  step : Binary32 := Gradient.defaultStep
  deriving Repr

namespace Gradient

/-- The component of the gradient along `axis`. -/
def component (g : Gradient) (domain : Domain) (axis : Nat) : String :=
  let parts := (List.range domain.axes).map fun i => if i = axis then g.step.literalText else "0.0"
  let offset := domain.vecType ++ "(" ++ ", ".intercalate parts ++ ")"
  let denom := g.step.double.literalText
  let fwd := "f(pos + " ++ offset ++ ")"
  let back := "f(pos - " ++ offset ++ ")"
  match g.mode with
  | .unbalanced => fwd ++ " - " ++ back ++ " / " ++ denom
  | .central => "(" ++ fwd ++ " - " ++ back ++ ") / " ++ denom

/-- The function `df(pos)`. -/
def module (g : Gradient) (domain : Domain) (linkage : Linkage) : String :=
  let ty := domain.vecType
  let components := String.join ((List.range domain.axes).map fun axis =>
    "        " ++ g.component domain axis ++ ",\n")
  let body := "fn df(pos: " ++ ty ++ ") -> " ++ ty ++ " \x7b\n    return " ++ ty ++ "(\n" ++
    components ++ "    );\n\x7d\n"
  match linkage with
  | .linked => "@link fn f(pos: " ++ ty ++ ") -> f32 \x7b\x7d\n\n@export " ++ body
  | .standalone => body

end Gradient

end FormulaShader
