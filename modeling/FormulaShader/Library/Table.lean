import FormulaShader.Library.Rule

/-!
# The builtin library

Every operation the compiler knows without being told, row by row. A row gives every name
the operation answers to (the MathJSON name first, then lower-case aliases) and its rule.
No name appears in two rows.

Results:
* `lookup`: the rule of a name.
* `names`: every name, in row order.
-/

namespace FormulaShader

/-- A row of the library: the names of one operation and its rule. -/
structure Builtin where
  names : List String
  rule : Rule
  deriving Repr

namespace Library

open Piece

def exactly (n : Nat) (emit : Emit) : Rule := ⟨.exact n, emit⟩

def call1 (fn : String) : Rule := exactly 1 (.call fn)

def template1 (pieces : Pieces) : Rule := exactly 1 (.template pieces)

/-- The rows of the library. -/
def builtins : List Builtin := [
  ⟨["Add", "add"], ⟨.atLeast 2, .chain "+" .additive⟩⟩,
  ⟨["Subtract", "subtract"], exactly 2 (.chain "-" .additive)⟩,
  ⟨["Multiply", "multiply"], ⟨.atLeast 2, .chain "*" .multiplicative⟩⟩,
  ⟨["Divide", "divide"], exactly 2 (.chain "/" .multiplicative)⟩,
  ⟨["Rational"], exactly 2 (.chain "/" .multiplicative)⟩,
  ⟨["Negate", "negate"], exactly 1 (.unary "-")⟩,
  ⟨["Delimiter"], template1 [slot 0]⟩,
  ⟨["Power", "power", "pow"], exactly 2 (.call "pow")⟩,
  ⟨["Square"], template1 [text "(", slot 0, text " * ", slot 0, text ")"]⟩,
  ⟨["Sqrt", "sqrt"], call1 "sqrt"⟩,
  ⟨["Root"], exactly 2 (.template [text "pow(", slot 0, text ", 1.0 / ", slot 1, text ")"])⟩,
  ⟨["Exp", "exp"], call1 "exp"⟩,
  ⟨["Ln", "ln"], call1 "log"⟩,
  ⟨["Log"], ⟨.between 1 2, .overloaded [
    [text "(log(", slot 0, text ") / log(10.0))"],
    [text "(log(", slot 0, text ") / log(", slot 1, text "))"]]⟩⟩,
  ⟨["Lg", "log10"], template1 [text "(log(", slot 0, text ") / log(10.0))"]⟩,
  ⟨["Lb", "log2"], call1 "log2"⟩,
  ⟨["Sin", "sin"], call1 "sin"⟩,
  ⟨["Cos", "cos"], call1 "cos"⟩,
  ⟨["Tan", "tan"], call1 "tan"⟩,
  ⟨["Sec"], template1 [text "(1.0 / cos(", slot 0, text "))"]⟩,
  ⟨["Csc"], template1 [text "(1.0 / sin(", slot 0, text "))"]⟩,
  ⟨["Cot"], template1 [text "(1.0 / tan(", slot 0, text "))"]⟩,
  ⟨["Arcsin", "asin"], call1 "asin"⟩,
  ⟨["Arccos", "acos"], call1 "acos"⟩,
  ⟨["Arctan", "atan"], call1 "atan"⟩,
  ⟨["Arctan2", "atan2"], exactly 2 (.call "atan2")⟩,
  ⟨["Sinh"], call1 "sinh"⟩,
  ⟨["Cosh"], call1 "cosh"⟩,
  ⟨["Tanh"], call1 "tanh"⟩,
  ⟨["Arsinh"], call1 "asinh"⟩,
  ⟨["Arcosh"], call1 "acosh"⟩,
  ⟨["Artanh"], call1 "atanh"⟩,
  ⟨["Abs", "abs"], call1 "abs"⟩,
  ⟨["Sign"], call1 "sign"⟩,
  ⟨["Floor"], call1 "floor"⟩,
  ⟨["Ceil", "Ceiling"], call1 "ceil"⟩,
  ⟨["Round"], call1 "round"⟩,
  ⟨["Truncate"], call1 "trunc"⟩,
  ⟨["FractionalPart"], call1 "fract"⟩,
  ⟨["Mod"], exactly 2 (.template [text "(", slot 0, text " - ", slot 1, text " * floor(",
    slot 0, text " / ", slot 1, text "))"])⟩,
  ⟨["Min"], ⟨.atLeast 2, .fold "min"⟩⟩,
  ⟨["Max"], ⟨.atLeast 2, .fold "max"⟩⟩,
  ⟨["Clamp"], exactly 3 (.call "clamp")⟩,
  ⟨["Equal"], exactly 2 (.compare .eq)⟩,
  ⟨["NotEqual"], exactly 2 (.compare .ne)⟩,
  ⟨["Less"], exactly 2 (.compare .lt)⟩,
  ⟨["LessEqual"], exactly 2 (.compare .le)⟩,
  ⟨["Greater"], exactly 2 (.compare .gt)⟩,
  ⟨["GreaterEqual"], exactly 2 (.compare .ge)⟩]

end Library

/-- The rule of an operation name, if the library has one. -/
def lookup (name : String) : Option Rule :=
  (Library.builtins.find? fun b => b.names.contains name).map Builtin.rule

/-- Every name the library answers to, in row order. -/
def names : List String := Library.builtins.flatMap Builtin.names

end FormulaShader
