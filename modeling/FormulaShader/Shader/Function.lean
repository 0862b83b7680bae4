import FormulaShader.Bindings.Mode

/-!
# The sampled function

A compiled formula is one expression. The renderer samples it as a function
`f(pos) -> f32` over a grid; this module wraps the expression into that function. Linked
output declares the functions a module linker supplies by name, such as `time()`, with
`@link`, and marks the function `@export`; standalone output is the plain function.

Results:
* `functionModule`: the text of `f` around a compiled expression.
* `Domain.axes`, `Domain.vecType`: the coordinates of a domain and the type of `pos`.
-/

namespace FormulaShader

/-- How functions supplied from outside are declared: `linked` writes `@link` declarations and
`@export` entry points, `standalone` plain functions, the caller supplying the rest. -/
inductive Linkage where
  | linked
  | standalone
  deriving Repr, DecidableEq, Inhabited

namespace Domain

/-- The number of coordinate axes. -/
def axes : Domain → Nat
  | .plane => 2
  | .space => 3

/-- The vector type of a position. -/
def vecType : Domain → String
  | .plane => "vec2<f32>"
  | .space => "vec3<f32>"

def indexType : Domain → String
  | .plane => "vec2<u32>"
  | .space => "vec3<u32>"

def modulusType : Domain → String
  | .plane => "u32"
  | .space => "vec2<u32>"

end Domain

/-- The function `f(pos) -> f32` returning a compiled expression. -/
def functionModule (fragment : String) (domain : Domain) (linkage : Linkage) : String :=
  let signature := "fn f(pos: " ++ domain.vecType ++ ") -> f32"
  let body := "\x7b\n    return " ++ fragment ++ ";\n\x7d\n"
  match linkage with
  | .linked => "@link fn time() -> f32 \x7b\x7d\n\n@export " ++ signature ++ " " ++ body
  | .standalone => signature ++ " " ++ body

end FormulaShader
