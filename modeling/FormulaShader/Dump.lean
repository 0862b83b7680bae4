import FormulaShader.Expr.Basic
import FormulaShader.Text.Quoted
import FormulaShader.Compile.Fallback
import FormulaShader.Bindings.Basic
import FormulaShader.Shader.Gradient

/-!
# Structural dumps

A dump writes a value as the nested structure it is: a record as `Name { field: value, ... }`,
a constructor with arguments as `Name(a, b)`, a list as `[a, b]`, a map as `{"k": v}`, a
string quoted by `quoteForDump` and a float in the `FloatLayout.dump` layout. It is meant for
reading by people and for comparing values by their text.

Beside each dump stands `equalsItself`: whether the value equals a copy of itself under
IEEE comparison, which holds exactly when it contains no NaN.

Results:
* `Expr.dump`, `Template.dump`, `Rule.dump`, `CompileError.dump`, `TemplateError.dump`,
  `Compiled.dump`, `Bindings.dump`, `Gradient.dump`.
-/

namespace FormulaShader

namespace Dump

def commaList (items : List String) : String := ", ".intercalate items

def tuple (name : String) (args : List String) : String := name ++ "(" ++ commaList args ++ ")"

def record (name : String) (fields : List (String × String)) : String :=
  name ++ " \x7b " ++ commaList (fields.map fun (k, v) => k ++ ": " ++ v) ++ " \x7d"

def list (items : List String) : String := "[" ++ commaList items ++ "]"

def map (entries : List (String × String)) : String :=
  "\x7b" ++ commaList (entries.map fun (k, v) => quoteForDump k ++ ": " ++ v) ++ "\x7d"

def option : Option String → String
  | some s => tuple "Some" [s]
  | none => "None"

end Dump

open Dump

mutual

/-- The dump of a formula tree. -/
def Expr.dump : Expr → String
  | .literal x => tuple "Literal" [x.format FloatLayout.dump]
  | .identifier n => tuple "Identifier" [quoteForDump n]
  | .application h args => tuple "Application" [quoteForDump h, "[" ++ Expr.dumpAll args ++ "]"]
  | .foreign d => tuple "Foreign" [quoteForDump d]

def Expr.dumpAll : List Expr → String
  | [] => ""
  | [e] => e.dump
  | e :: es => e.dump ++ ", " ++ Expr.dumpAll es

end

mutual

/-- Whether a tree equals its copy: it holds no NaN literal. -/
def Expr.equalsItself : Expr → Bool
  | .literal x => !x.isNaN
  | .application _ args => Expr.allEqualItself args
  | _ => true

def Expr.allEqualItself : List Expr → Bool
  | [] => true
  | e :: es => e.equalsItself && Expr.allEqualItself es

end

/-- The dump of a template piece. -/
def Piece.dump : Piece → String
  | .text s => tuple "Text" [quoteForDump s]
  | .slot i => tuple "Slot" [toString i]

/-- The dump of a piece list. -/
def Pieces.dump (ps : Pieces) : String := list (ps.map Piece.dump)

/-- The dump of a template. -/
def Template.dump (t : Template) : String :=
  record "Template" [("source", quoteForDump t.source), ("pieces", Pieces.dump t.pieces),
    ("arity", toString t.arity)]

/-- The dump of an arity. -/
def Arity.dump : Arity → String
  | .exact k => tuple "Exact" [toString k]
  | .atLeast k => tuple "AtLeast" [toString k]
  | .between lo hi => tuple "Between" [toString lo, toString hi]

def Precedence.name : Precedence → String
  | .additive => "Additive"
  | .multiplicative => "Multiplicative"
  | .unary => "Unary"
  | .atom => "Atom"

def CompareOp.name : CompareOp → String
  | .lt => "Lt"
  | .le => "Le"
  | .gt => "Gt"
  | .ge => "Ge"
  | .eq => "Eq"
  | .ne => "Ne"

/-- The dump of an emission rule's form. -/
def Emit.dump : Emit → String
  | .chain op p => tuple "Infix" [quoteForDump op, p.name]
  | .unary op => tuple "Prefix" [quoteForDump op]
  | .call f => tuple "Call" [quoteForDump f]
  | .fold f => tuple "Fold" [quoteForDump f]
  | .template ps => tuple "Template" [Pieces.dump ps]
  | .overloaded forms => tuple "Overloaded" [list (forms.map Pieces.dump)]
  | .compare op => tuple "Compare" [op.name]

/-- The dump of a rule. -/
def Rule.dump (r : Rule) : String := record "Rule" [("arity", r.arity.dump), ("emit", r.emit.dump)]

/-- The dump of a compile error. -/
def CompileError.dump : CompileError → String
  | .unresolvedIdentifier n => tuple "UnresolvedIdentifier" [quoteForDump n]
  | .unknownApplication n => tuple "UnknownApplication" [quoteForDump n]
  | .arityMismatch n expected got =>
    record "ArityMismatch" [("name", quoteForDump n), ("expected", expected.dump),
      ("got", toString got)]
  | .unrecognizedNode d => tuple "UnrecognizedNode" [quoteForDump d]
  | .nonFiniteLiteral x => tuple "NonFiniteLiteral" [x.format FloatLayout.dump]
  | .tooDeep n => tuple "TooDeep" [toString n]

/-- Whether a compile error equals its copy: it holds no NaN literal. -/
def CompileError.equalsItself : CompileError → Bool
  | .nonFiniteLiteral x => !x.isNaN
  | _ => true

/-- The dump of a template error. -/
def TemplateError.dump : TemplateError → String
  | .unclosedSlot n => tuple "UnclosedSlot" [toString n]
  | .badSlot s => tuple "BadSlot" [quoteForDump s]
  | .strayBrace n => tuple "StrayBrace" [toString n]
  | .missingSlot i => tuple "MissingSlot" [toString i]

def fragmentDump (code : String) : String := record "Fragment" [("code", quoteForDump code)]

/-- The dump of a compile that may have fallen back to zero. -/
def Compiled.dump (c : Compiled) : String :=
  record "Compiled" [("fragment", fragmentDump c.fragment),
    ("error", option (c.error.map CompileError.dump))]

def Compiled.equalsItself (c : Compiled) : Bool := (c.error.map CompileError.equalsItself).getD true

/-- The dump of a bindings table. -/
def Bindings.dump (b : Bindings) : String :=
  record "Bindings" [("vars", map (b.vars.entries.map fun (k, v) => (k, quoteForDump v))),
    ("overrides", map (b.overrides.entries.map fun (k, t) => (k, t.dump)))]

/-- The dump of a gradient emitter. -/
def Gradient.dump (g : Gradient) : String :=
  record "Gradient" [("mode", match g.mode with | .unbalanced => "Unbalanced" | .central => "Central"),
    ("step", g.step.format FloatLayout.dump)]

/-- Whether a gradient emitter equals its copy: its step is not NaN. -/
def Gradient.equalsItself (g : Gradient) : Bool := !g.step.isNaN

end FormulaShader
