import FormulaShader.Compile.Basic
import FormulaShader.Expr.MathJson

/-!
# Falling back to zero

A live view must always draw something. When a formula cannot be read or compiled, the zero
formula stands in for it (a flat plane, an empty isosurface), and the compile error is kept
beside the text so that it can still be shown.

Results:
* `compileOrZero`: the compiled text, or that of zero together with the error.
* `parseOrZero`: the formula of a text, or zero when the text is not JSON.
-/

namespace FormulaShader

/-- Compiled text, and the error that made it the zero formula, if one did. -/
structure Compiled where
  fragment : String
  error : Option CompileError
  deriving Repr

/-- Compiles a formula, putting zero in its place when it fails. -/
def compileOrZero (e : Expr) (b : Bindings) : Compiled :=
  match compile e b with
  | .ok code => ⟨code, none⟩
  | .error err =>
    match compile Expr.zero b with
    | .ok code => ⟨code, some err⟩
    | .error _ => ⟨"0.0", some err⟩

/-- Reads a formula, zero when the text is not JSON. -/
def parseOrZero (s : String) : Expr :=
  match Expr.parse s with
  | .ok e => e
  | .error _ => Expr.zero

end FormulaShader
