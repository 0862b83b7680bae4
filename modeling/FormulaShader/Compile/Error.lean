import FormulaShader.Library.Rule
import FormulaShader.Decimal.Layout

/-!
# Compile errors

Each way a formula can fail to compile, with the text that reports it.

Results:
* `CompileError.message`: the report of an error.
-/

namespace FormulaShader

/-- Why a formula could not be compiled. -/
inductive CompileError where
  | unresolvedIdentifier (name : String)
  | unknownApplication (name : String)
  | arityMismatch (name : String) (expected : Arity) (got : Nat)
  | unrecognizedNode (description : String)
  | nonFiniteLiteral (value : Binary64)
  | tooDeep (limit : Nat)
  deriving Repr, DecidableEq

namespace CompileError

/-- The report of a compile error. -/
def message : CompileError → String
  | .unresolvedIdentifier name => "unresolved identifier '" ++ name ++ "'"
  | .unknownApplication name => "unknown function '" ++ name ++ "'"
  | .arityMismatch name expected got =>
    "'" ++ name ++ "' takes " ++ expected.text ++ " operand(s), got " ++ toString got
  | .unrecognizedNode d => "unrecognized node: " ++ d
  | .nonFiniteLiteral x =>
    "literal " ++ x.format FloatLayout.plain ++ " cannot be represented as f32"
  | .tooDeep limit => "expression nested deeper than " ++ toString limit ++ " levels"

def kind : CompileError → String
  | .unresolvedIdentifier _ => "UnresolvedIdentifier"
  | .unknownApplication _ => "UnknownApplication"
  | .arityMismatch .. => "ArityMismatch"
  | .unrecognizedNode _ => "UnrecognizedNode"
  | .nonFiniteLiteral _ => "NonFiniteLiteral"
  | .tooDeep _ => "TooDeep"

end CompileError

end FormulaShader
