import FormulaShader.Template.Basic

/-!
# Emission rules

A rule says how many operands an operation takes and how its compiled operands become
target text: an operator chain such as `a + b + c`, a leading minus, a call `f(a, b)`, a
binary call folded over the operands, a template, one template per operand count, or a
comparison turned into `1.0` or `0.0`. Each piece of emitted text carries a precedence, so
that a parent can tell where an operand needs parentheses.

Results:
* `Arity.accepts`, `Arity.min`, `Arity.text`: the operand counts an arity allows, its
  least one and its wording.
* `Precedence.rank`: the order of binding strength, loosest first.
-/

namespace FormulaShader

/-- How many operands a rule accepts: exactly `n`, at least `n`, or from `lo` to `hi`, both
included. -/
inductive Arity where
  | exact (n : Nat)
  | atLeast (n : Nat)
  | between (lo hi : Nat)
  deriving Repr, DecidableEq, Inhabited

namespace Arity

/-- Whether `n` operands are allowed. -/
def accepts : Arity → Nat → Bool
  | .exact k, n => n == k
  | .atLeast k, n => n ≥ k
  | .between lo hi, n => lo ≤ n && n ≤ hi

/-- The least operand count allowed. -/
def min : Arity → Nat
  | .exact k | .atLeast k | .between k _ => k

/-- The wording of an arity: `exactly 2`, `at least 2` or `1 to 2`. -/
def text : Arity → String
  | .exact k => "exactly " ++ toString k
  | .atLeast k => "at least " ++ toString k
  | .between lo hi => toString lo ++ " to " ++ toString hi

end Arity

/-- Binding strength of emitted text, loosest first: `a + b`, `a * b`, `-a`, and atoms (literals,
variables, calls and parenthesized text). -/
inductive Precedence where
  | additive
  | multiplicative
  | unary
  | atom
  deriving Repr, DecidableEq, Inhabited

/-- The position of a precedence in the order, loosest first. -/
def Precedence.rank : Precedence → Nat
  | .additive => 0
  | .multiplicative => 1
  | .unary => 2
  | .atom => 3

instance : LT Precedence := ⟨fun a b => a.rank < b.rank⟩

instance (a b : Precedence) : Decidable (a < b) := inferInstanceAs (Decidable (a.rank < b.rank))

/-- A comparison of two scalars. -/
inductive CompareOp where
  | lt
  | le
  | gt
  | ge
  | eq
  | ne
  deriving Repr, DecidableEq, Inhabited

def CompareOp.symbol : CompareOp → String
  | .lt => "<"
  | .le => "<="
  | .gt => ">"
  | .ge => ">="
  | .eq => "=="
  | .ne => "!="

/-- How compiled operands become text: a left-associative operator chain `a op b op c`, an
operator before its one operand, a call with every operand, a binary call folded over the
operands (`f(f(a, b), c)`), a template, one template per operand count from the least count on,
or a comparison giving `1.0` where it holds and `0.0` elsewhere. -/
inductive Emit where
  | chain (op : String) (prec : Precedence)
  | unary (op : String)
  | call (fn : String)
  | fold (fn : String)
  | template (pieces : Pieces)
  | overloaded (forms : List Pieces)
  | compare (op : CompareOp)
  deriving Repr, DecidableEq, Inhabited

/-- The operand counts of an operation and how it is emitted. -/
structure Rule where
  arity : Arity
  emit : Emit
  deriving Repr, DecidableEq, Inhabited

end FormulaShader
