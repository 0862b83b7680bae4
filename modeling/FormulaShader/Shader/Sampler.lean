import FormulaShader.Shader.Function

/-!
# The grid sampler

The sampler is a linked entry point `main(index: u32)`: it unpacks a flat grid index into a
cell, maps the cell into the box from `rangeMin()` to `rangeMax()`, and returns `f` or `df`
there. Grid size, range and index unpacking are supplied by the renderer.

Results:
* `samplerModule`: the text of the entry point for a domain and a kind of sample.
-/

namespace FormulaShader

/-- What the sampler returns at each grid point: the field `f(pos)`, or the gradients `df(pos)`
for surface normals. -/
inductive Sample where
  | values
  | normals
  deriving Repr, DecidableEq, Inhabited

/-- The sampler entry point. -/
def samplerModule (domain : Domain) (sample : Sample) : String :=
  let n := toString domain.axes
  let ty := domain.vecType
  let uty := domain.indexType
  let mty := domain.modulusType
  let (callee, ret) := match sample with
    | .values => ("f", "f32")
    | .normals => ("df", ty)
  let ones := ", ".intercalate (List.replicate domain.axes "1u")
  "@link fn " ++ callee ++ "(pos: " ++ ty ++ ") -> " ++ ret ++ " \x7b\x7d\n" ++
  "\n" ++
  "@link fn size() -> " ++ uty ++ " \x7b\x7d\n" ++
  "@link fn rangeMin() -> " ++ ty ++ " \x7b\x7d\n" ++
  "@link fn rangeMax() -> " ++ ty ++ " \x7b\x7d\n" ++
  "@link fn sizeToModulus" ++ n ++ "(size: " ++ uty ++ ") -> " ++ mty ++ " \x7b\x7d\n" ++
  "@link fn unpackIndex" ++ n ++ "(i: u32, modulus: " ++ mty ++ ") -> " ++ uty ++ " \x7b\x7d\n" ++
  "\n" ++
  "@export fn main(index: u32) -> " ++ ret ++ " \x7b\n" ++
  "    let cell = unpackIndex" ++ n ++ "(index, sizeToModulus" ++ n ++ "(size()));\n" ++
  "    var pos: " ++ ty ++ " = " ++ ty ++ "(cell) / " ++ ty ++ "(size() - " ++ uty ++ "(" ++
    ones ++ "));\n" ++
  "    pos = pos * (rangeMax() - rangeMin()) + rangeMin();\n" ++
  "    return " ++ callee ++ "(pos);\n" ++
  "\x7d\n"

end FormulaShader
