import Mathlib
import FormulaShader.Expr.Basic
import FormulaShader.Bindings.Basic
import FormulaShader.Proofs.Wgsl.Parser
import FormulaShader.Proofs.Compile.LiteralValue

/-!
# What a formula means

The value of a formula in a field with a linear order, read off the formula alone: the
arithmetic operations are the field's, a comparison is `select(0, 1, holds)`, and every
other operation is the shading-language builtin of that name, applied to the operands and
otherwise unknown. Literals are the decimals the singles they round to are written as, and an
identifier is whatever its bound text reads as.

The names follow MathJSON with the lower-case aliases of the library. An override table may
replace an operation: the only override read here is the signed difference `({0} - {1})`
that the implicit plot mode puts in place of `Equal`.

Results:
* `Meaning`, `Meaning.ofName`: what each operation name stands for.
* `Meaning.apply`: its value on the values of the operands.
* `Expr.value`: the value of a formula under a bindings table.
-/

namespace FormulaShader

open Wgsl

/-- What an operation computes from the values of its operands. -/
inductive Meaning where
  | sum
  | difference
  | product
  | quotient
  | negation
  | same
  | square
  | root
  | log
  | logTen
  | reciprocal (fn : String)
  | floorMod
  | fold (fn : String)
  | compare (op : CompareOp)
  | builtin (fn : String)
  | unknown
  deriving DecidableEq, Repr

namespace Meaning

/-- What each operation name stands for. -/
def ofName : String → Meaning
  | "Add" | "add" => .sum
  | "Subtract" | "subtract" => .difference
  | "Multiply" | "multiply" => .product
  | "Divide" | "divide" | "Rational" => .quotient
  | "Negate" | "negate" => .negation
  | "Delimiter" => .same
  | "Power" | "power" | "pow" => .builtin "pow"
  | "Square" => .square
  | "Sqrt" | "sqrt" => .builtin "sqrt"
  | "Root" => .root
  | "Exp" | "exp" => .builtin "exp"
  | "Ln" | "ln" => .builtin "log"
  | "Log" => .log
  | "Lg" | "log10" => .logTen
  | "Lb" | "log2" => .builtin "log2"
  | "Sin" | "sin" => .builtin "sin"
  | "Cos" | "cos" => .builtin "cos"
  | "Tan" | "tan" => .builtin "tan"
  | "Sec" => .reciprocal "cos"
  | "Csc" => .reciprocal "sin"
  | "Cot" => .reciprocal "tan"
  | "Arcsin" | "asin" => .builtin "asin"
  | "Arccos" | "acos" => .builtin "acos"
  | "Arctan" | "atan" => .builtin "atan"
  | "Arctan2" | "atan2" => .builtin "atan2"
  | "Sinh" => .builtin "sinh"
  | "Cosh" => .builtin "cosh"
  | "Tanh" => .builtin "tanh"
  | "Arsinh" => .builtin "asinh"
  | "Arcosh" => .builtin "acosh"
  | "Artanh" => .builtin "atanh"
  | "Abs" | "abs" => .builtin "abs"
  | "Sign" => .builtin "sign"
  | "Floor" => .builtin "floor"
  | "Ceil" | "Ceiling" => .builtin "ceil"
  | "Round" => .builtin "round"
  | "Truncate" => .builtin "trunc"
  | "FractionalPart" => .builtin "fract"
  | "Mod" => .floorMod
  | "Min" => .fold "min"
  | "Max" => .fold "max"
  | "Clamp" => .builtin "clamp"
  | "Equal" => .compare .eq
  | "NotEqual" => .compare .ne
  | "Less" => .compare .lt
  | "LessEqual" => .compare .le
  | "Greater" => .compare .gt
  | "GreaterEqual" => .compare .ge
  | _ => .unknown

variable {α : Type} [Field α] [LinearOrder α]

/-- The value of an operation on the values of its operands; an operand count the operation
does not take gives `0`. -/
def apply (I : Interp α) : Meaning → List α → α
  | .sum, vs => vs.sum
  | .difference, [a, b] => a - b
  | .product, vs => vs.prod
  | .quotient, [a, b] => a / b
  | .negation, [a] => -a
  | .same, [a] => a
  | .square, [a] => a * a
  | .root, [a, b] => I.call "pow" [a, 1 / b]
  | .log, [a] => I.call "log" [a] / I.call "log" [10]
  | .log, [a, b] => I.call "log" [a] / I.call "log" [b]
  | .logTen, [a] => I.call "log" [a] / I.call "log" [10]
  | .reciprocal fn, [a] => 1 / I.call fn [a]
  | .floorMod, [a, b] => a - b * I.call "floor" [a / b]
  | .fold fn, v :: vs => vs.foldl (fun acc x => I.call fn [acc, x]) v
  | .compare op, [a, b] => I.select 0 1 (op.holds a b)
  | .builtin fn, vs => I.call fn vs
  | _, _ => 0

end Meaning

variable {α : Type} [Field α] [LinearOrder α]

mutual

/-- The value of a formula under a bindings table. -/
def Expr.value (b : Bindings) (I : Interp α) : Expr → α
  | .literal x => (x.toBinary32.writtenValue : α)
  | .identifier name =>
    match (b.lookupVar name).bind parse with
    | some t => t.eval I
    | none => 0
  | .application name args =>
    match b.lookupOverride name with
    | some t => if t = Template.difference then Meaning.difference.apply I (Expr.valueAll b I args) else 0
    | none => (Meaning.ofName name).apply I (Expr.valueAll b I args)
  | .foreign _ => 0

def Expr.valueAll (b : Bindings) (I : Interp α) : List Expr → List α
  | [] => []
  | e :: es => e.value b I :: Expr.valueAll b I es

end

theorem Expr.valueAll_eq_map (b : Bindings) (I : Interp α) :
    ∀ es : List Expr, Expr.valueAll b I es = es.map (Expr.value b I)
  | [] => rfl
  | e :: es => by rw [Expr.valueAll, Expr.valueAll_eq_map b I es, List.map_cons]

end FormulaShader
