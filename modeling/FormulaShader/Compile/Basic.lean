import FormulaShader.Expr.Basic
import FormulaShader.Bindings.Basic
import FormulaShader.Library.Table
import FormulaShader.Compile.Literal
import FormulaShader.Compile.Error

/-!
# Compiling a formula to shader text

A formula compiles bottom-up to one scalar expression of the shading language. A literal is
cast to single precision; an identifier is replaced by its bound text; an operation is
emitted by its override, if the table has one, and by its library rule otherwise. Operands
compile left to right and the first failure is the answer. Each emitted piece of text
carries its precedence, so that a parent puts parentheses exactly where they are needed:

* an operand of an operator chain that binds looser than the chain, or one after the first
  that binds equally under `-` or `/`;
* the operand of a leading minus, of a template or of an override when it is not an atom;
  a leading minus never stands before another minus, which would read as a decrement.

Trees nested deeper than 256 levels are refused.

Results:
* `compile`: the text of a formula under a bindings table, or the first error.
-/

namespace FormulaShader

def maxDepth : Nat := 256

/-- Emitted text and how tightly it binds. -/
structure Emitted where
  code : String
  prec : Precedence
  deriving Repr, Inhabited

namespace Emitted

def atom (code : String) : Emitted := ⟨code, .atom⟩

/-- The text, parenthesized unless it is an atom. -/
def grouped (e : Emitted) : String :=
  if e.prec < .atom then "(" ++ e.code ++ ")" else e.code

end Emitted

/-- A literal: the nearest single, which must be finite. A negative one, `-0.0` included,
binds as a unary minus. -/
def emitLiteral (x : Binary64) : Except CompileError Emitted :=
  let v := x.toBinary32
  if v.isFinite then .ok ⟨v.literalText, if v.signBitSet then .unary else .atom⟩
  else .error (.nonFiniteLiteral x)

def needsParens (op : String) (prec : Precedence) (i : Nat) (arg : Emitted) : Bool :=
  arg.prec < prec || (i > 0 && arg.prec == prec && (op == "-" || op == "/"))

def emitChain (op : String) (prec : Precedence) (args : List Emitted) : Emitted :=
  let parts := args.zipIdx.map fun (arg, i) =>
    if needsParens op prec i arg then "(" ++ arg.code ++ ")" else arg.code
  ⟨" ".intercalate (List.intersperse op parts), prec⟩

def Emit.apply (emit : Emit) (arity : Arity) (args : List Emitted) : Emitted :=
  let codes := args.map Emitted.code
  match emit with
  | .chain op prec => emitChain op prec args
  | .unary op =>
    let inner := (args.head?.map Emitted.grouped).getD ""
    ⟨if inner.startsWith op then op ++ "(" ++ inner ++ ")" else op ++ inner, .unary⟩
  | .call fn => .atom (fn ++ "(" ++ ", ".intercalate codes ++ ")")
  | .fold fn =>
    match codes with
    | [] => .atom ""
    | first :: rest => .atom (rest.foldl (fun acc next => fn ++ "(" ++ acc ++ ", " ++ next ++ ")") first)
  | .template pieces => .atom (pieces.render (args.map Emitted.grouped))
  | .overloaded forms =>
    .atom (((forms[args.length - arity.min]?).getD []).render (args.map Emitted.grouped))
  | .compare op =>
    let l := codes.head?.getD ""
    let r := (codes.drop 1).head?.getD ""
    .atom ("select(0.0, 1.0, (" ++ l ++ " " ++ op.symbol ++ " " ++ r ++ "))")

mutual

/-- Compiles a tree standing at nesting level `depth`. -/
def emit (b : Bindings) (depth : Nat) : Expr → Except CompileError Emitted
  | .literal x => if depth > maxDepth then .error (.tooDeep maxDepth) else emitLiteral x
  | .identifier name =>
    if depth > maxDepth then .error (.tooDeep maxDepth)
    else
      match b.lookupVar name with
      | some text => .ok (.atom text)
      | none => .error (.unresolvedIdentifier name)
  | .application name args =>
    if depth > maxDepth then .error (.tooDeep maxDepth)
    else
      match b.lookupOverride name with
      | some t =>
        if t.arity ≠ args.length then .error (.arityMismatch name (.exact t.arity) args.length)
        else do
          let out ← emitAll b (depth + 1) args
          pure (.atom (t.render (out.map Emitted.grouped)))
      | none =>
        match lookup name with
        | none => .error (.unknownApplication name)
        | some rule =>
          if !rule.arity.accepts args.length then
            .error (.arityMismatch name rule.arity args.length)
          else do
            let out ← emitAll b (depth + 1) args
            pure (rule.emit.apply rule.arity out)
  | .foreign d =>
    if depth > maxDepth then .error (.tooDeep maxDepth) else .error (.unrecognizedNode d)

/-- Compiles operands left to right, stopping at the first error. -/
def emitAll (b : Bindings) (depth : Nat) : List Expr → Except CompileError (List Emitted)
  | [] => .ok []
  | e :: es => do
    let x ← emit b depth e
    let xs ← emitAll b depth es
    pure (x :: xs)

end

/-- Compiles a formula to shader text. -/
def compile (e : Expr) (b : Bindings) : Except CompileError String :=
  (emit b 1 e).map Emitted.code

end FormulaShader
