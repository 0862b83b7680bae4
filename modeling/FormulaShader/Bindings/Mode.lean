import FormulaShader.Bindings.Basic

/-!
# Plot modes

A formula is drawn in one of two ways: as a height field `z = f(x, y)` sampled over a plane,
or as the zero set of `f(x, y, z) - g(x, y, z)` sampled over a volume. Each way comes with a
starting table: coordinates read from `pos`, time from a linked `time()`, the numeric
constants, and for the volume `Equal` turned into a signed difference.

Results:
* `PlotMode.bindings`: the starting table of a mode.
* `PlotMode.domain`: where the mode samples.
-/

namespace FormulaShader

/-- The space a compiled function is sampled over. -/
inductive Domain where
  | plane
  | space
  deriving Repr, DecidableEq, Inhabited

/-- The ways of drawing a formula: a height field over a plane, or an isosurface in a volume. -/
inductive PlotMode where
  | surface
  | implicit
  deriving Repr, DecidableEq, Inhabited

namespace PlotMode

/-- The starting bindings of a mode. -/
def bindings : PlotMode → Bindings
  | .surface => surfaceBindings
  | .implicit => (surfaceBindings.var "z" "pos.z").override "Equal" Template.difference
where
  surfaceBindings : Bindings :=
    ((Bindings.empty.var "x" "pos.x").var "y" "pos.y" |>.var "t" "time()").withConstants

/-- Where a mode samples its function. -/
def domain : PlotMode → Domain
  | .surface => .plane
  | .implicit => .space

end PlotMode

end FormulaShader
