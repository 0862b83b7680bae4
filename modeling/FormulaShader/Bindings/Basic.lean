import FormulaShader.NameMap
import FormulaShader.Template.Basic

/-!
# Bindings

A bindings table holds two separate namespaces for one compile: `vars` maps an identifier
to target text spliced verbatim (`x` to `pos.x`), and `overrides` maps an operation name to a
template that replaces the library's rule for it (`Equal` to `({0} - {1})`).

Results:
* `Bindings.insertVar`, `Bindings.insertOverride`: writes that return the value replaced.
* `Bindings.merge`: the entries of a second table over the first.
* `Bindings.withConstants`: `Pi`, `ExponentialE` and `Tau` bound where they are not yet.
-/

namespace FormulaShader

/-- Identifier texts and override templates, each keyed by name. -/
structure Bindings where
  vars : NameMap String := .empty
  overrides : NameMap Template := .empty
  deriving Repr, Inhabited

namespace Bindings

def empty : Bindings := {}

/-- Binds an identifier to text; returns the text it had. -/
def insertVar (b : Bindings) (name text : String) : Option String × Bindings :=
  let (prev, vars) := b.vars.insert name text
  (prev, { b with vars })

/-- Overrides an operation name with a template; returns the template it had. -/
def insertOverride (b : Bindings) (name : String) (t : Template) : Option Template × Bindings :=
  let (prev, overrides) := b.overrides.insert name t
  (prev, { b with overrides })

def var (b : Bindings) (name text : String) : Bindings := (b.insertVar name text).2

def override (b : Bindings) (name : String) (t : Template) : Bindings :=
  (b.insertOverride name t).2

def lookupVar (b : Bindings) (name : String) : Option String := b.vars.find? name

def lookupOverride (b : Bindings) (name : String) : Option Template := b.overrides.find? name

/-- Every entry of `other` written over `b`. -/
def merge (b other : Bindings) : Bindings :=
  ⟨b.vars.union other.vars, b.overrides.union other.overrides⟩

/-- The numeric constants with their values to ten decimal places: π, e and τ = 2π. -/
def constants : List (String × String) :=
  [("Pi", "3.1415926536"), ("ExponentialE", "2.7182818285"), ("Tau", "6.2831853072")]

/-- Binds each constant that has no binding yet. -/
def withConstants (b : Bindings) : Bindings :=
  { b with vars := constants.foldl (fun m c => m.insertIfAbsent c.1 c.2) b.vars }

end Bindings

end FormulaShader
