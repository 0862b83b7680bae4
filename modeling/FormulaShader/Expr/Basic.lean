import FormulaShader.Binary.Double

/-!
# Formula trees

A formula is a tree of numeric literals, identifiers and applications of a named operation
to an ordered list of operands. A node the decoder could not classify is kept as a
`foreign` node with a short description, so that the failure surfaces when the tree is
compiled. Arity is not stored: an application carries whatever operands it was given.

Results:
* `Expr.depth`: nodes on the longest path from the root, leaves counting one.
* `Expr.identifiers`, `Expr.applications`: the names used, sorted, each once.
-/

namespace FormulaShader

/-- A formula tree: numeric literals, identifiers (free variables, or constants such as `Pi`),
operation names applied to their operands in order, and foreign nodes, described in words. -/
inductive Expr where
  | literal (value : Binary64)
  | identifier (name : String)
  | application (head : String) (args : List Expr)
  | foreign (description : String)
  deriving Repr, Inhabited

namespace Expr

/-- The zero literal, drawn when a formula cannot be used. -/
def zero : Expr := .literal Binary64.zero

mutual

/-- Nodes on the longest path from the root; a leaf has depth one, an application without
operands too. -/
def depth : Expr → Nat
  | .application _ args => 1 + depthMax args
  | _ => 1

def depthMax : List Expr → Nat
  | [] => 0
  | e :: es => max e.depth (depthMax es)

end

mutual

/-- Identifier names in pre-order, repetitions kept. -/
def identifierList : Expr → List String
  | .identifier name => [name]
  | .application _ args => identifierListAll args
  | _ => []

def identifierListAll : List Expr → List String
  | [] => []
  | e :: es => e.identifierList ++ identifierListAll es

end

mutual

/-- Application names in pre-order, repetitions kept. -/
def applicationList : Expr → List String
  | .application head args => head :: applicationListAll args
  | _ => []

def applicationListAll : List Expr → List String
  | [] => []
  | e :: es => e.applicationList ++ applicationListAll es

end

def insertSorted (s : String) : List String → List String
  | [] => [s]
  | t :: rest => if s < t then s :: t :: rest else if s = t then t :: rest else t :: insertSorted s rest

def sortedSet (names : List String) : List String := names.foldr insertSorted []

/-- The identifiers of the tree, sorted, each once. -/
def identifiers (e : Expr) : List String := sortedSet e.identifierList

/-- The application names of the tree, sorted, each once. -/
def applications (e : Expr) : List String := sortedSet e.applicationList

/-- Wraps a tree `count` times in a one-operand application of `head`. -/
def nest (head : String) : Nat → Expr → Expr
  | 0, e => e
  | count + 1, e => nest head count (.application head [e])

end Expr

end FormulaShader
