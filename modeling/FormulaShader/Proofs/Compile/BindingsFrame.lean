import FormulaShader.Compile.Basic
import FormulaShader.Bindings.Mode

/-!
# Compiling reads a table only at the names a tree uses

A bindings table has two namespaces, and the compiler looks into each at one kind of node
only: the text of an identifier node at its name among the variables, the override of an
application node at its name among the overrides. Nothing else of the table is read. So two
tables that agree on the identifiers of a tree and on its operation names compile it alike,
to the same text or to the same error; a variable never changes how an operation compiles,
an override never changes how an identifier compiles, and a name the tree does not use
changes nothing. This is what lets a caller find the bindings a formula needs from
`Expr.identifiers` and `Expr.applications` before compiling it.

The sorted name sets are computed apart from the compiler, by the pre-order listings
`Expr.identifierList` and `Expr.applicationList`; the induction follows the compiler and
narrows the agreement to the operands at each application.

Results:
* `Expr.mem_identifiers`, `Expr.mem_applications`: the sorted sets hold exactly the names of
  the listings.
* `emit_congr`: tables that agree on a tree's names compile it alike from any level.
* `compile_reads_only_used_bindings`: tables that agree on the names a tree uses give the
  same compile.
-/

namespace FormulaShader

namespace Expr

theorem mem_insertSorted {s t : String} {l : List String} :
    s ∈ insertSorted t l ↔ s = t ∨ s ∈ l := by
  induction l with
  | nil => simp [insertSorted]
  | cons u rest ih =>
    unfold insertSorted
    split
    · simp
    · split
      · -- the name is there already
        rename_i heq
        subst heq
        simp
      · simp only [List.mem_cons, ih]
        exact or_left_comm

@[simp] theorem mem_sortedSet {s : String} {l : List String} : s ∈ sortedSet l ↔ s ∈ l := by
  induction l with
  | nil => simp [sortedSet]
  | cons t l ih =>
    change s ∈ insertSorted t (sortedSet l) ↔ _
    rw [mem_insertSorted, ih, List.mem_cons]

@[simp] theorem mem_identifiers {s : String} {e : Expr} : s ∈ e.identifiers ↔ s ∈ e.identifierList :=
  mem_sortedSet

@[simp] theorem mem_applications {s : String} {e : Expr} :
    s ∈ e.applications ↔ s ∈ e.applicationList :=
  mem_sortedSet

end Expr

/-- Two tables give the same variable text at each of `ids` and the same override at each of
`apps`. -/
structure AgreeOn (b₁ b₂ : Bindings) (ids apps : List String) : Prop where
  vars : ∀ n ∈ ids, b₁.lookupVar n = b₂.lookupVar n
  overrides : ∀ n ∈ apps, b₁.lookupOverride n = b₂.lookupOverride n

theorem AgreeOn.mono {b₁ b₂ : Bindings} {ids apps ids' apps' : List String}
    (h : AgreeOn b₁ b₂ ids apps) (hids : ids' ⊆ ids) (happs : apps' ⊆ apps) :
    AgreeOn b₁ b₂ ids' apps' :=
  ⟨fun n hn => h.vars n (hids hn), fun n hn => h.overrides n (happs hn)⟩

section

variable {b₁ b₂ : Bindings}

mutual

/-- Tables that agree on the names of a tree compile it alike. The induction follows the
compiler: a leaf reads at most its own name, an application its own name and then, through
the operands, only their names. -/
theorem emit_congr : ∀ (d : Nat) (e : Expr),
    AgreeOn b₁ b₂ e.identifierList e.applicationList → emit b₁ d e = emit b₂ d e
  | d, .literal x, _ => by simp only [emit]
  | d, .identifier name, h => by
    have hv : b₁.lookupVar name = b₂.lookupVar name :=
      h.vars name (by simp [Expr.identifierList])
    simp only [emit, hv]
  | d, .application name args, h => by
    have ho : b₁.lookupOverride name = b₂.lookupOverride name :=
      h.overrides name (by simp [Expr.applicationList])
    have hargs : emitAll b₁ (d + 1) args = emitAll b₂ (d + 1) args :=
      emitAll_congr (d + 1) args
        (h.mono (by simp [Expr.identifierList]) (by simp [Expr.applicationList]))
    simp only [emit, ho, hargs]
  | d, .foreign desc, _ => by simp only [emit]

theorem emitAll_congr : ∀ (d : Nat) (es : List Expr),
    AgreeOn b₁ b₂ (Expr.identifierListAll es) (Expr.applicationListAll es) →
      emitAll b₁ d es = emitAll b₂ d es
  | d, [], _ => by simp only [emitAll]
  | d, e :: es, h => by
    have he := emit_congr d e
      (h.mono (by simp [Expr.identifierListAll]) (by simp [Expr.applicationListAll]))
    have hes := emitAll_congr d es
      (h.mono (by simp [Expr.identifierListAll]) (by simp [Expr.applicationListAll]))
    simp only [emitAll, he, hes]

end

end

/-- Compiling reads the bindings only at the names the tree reports: tables that give the
same text to each identifier of the tree and the same override to each operation name of the
tree compile it to the same text, or fail with the same error. -/
theorem compile_reads_only_used_bindings (e : Expr) (b₁ b₂ : Bindings)
    (hvars : ∀ n ∈ e.identifiers, b₁.lookupVar n = b₂.lookupVar n)
    (hoverrides : ∀ n ∈ e.applications, b₁.lookupOverride n = b₂.lookupOverride n) :
    compile e b₁ = compile e b₂ := by
  have h : AgreeOn b₁ b₂ e.identifierList e.applicationList :=
    ⟨fun n hn => hvars n (Expr.mem_identifiers.2 hn),
      fun n hn => hoverrides n (Expr.mem_applications.2 hn)⟩
  rw [compile, compile, emit_congr 1 e h]

/-- `Sin` bound as a variable and used as an operation on itself: the variable does not touch
the operation, and entries for `x` and an override of `Cos`, names the tree does not use,
change nothing. -/
theorem sin_of_sin_ignores_other_names :
    (∀ n ∈ (Expr.application "Sin" [.identifier "Sin"]).identifiers,
      (Bindings.empty.var "Sin" "0.5").lookupVar n =
        (((Bindings.empty.var "Sin" "0.5").var "x" "pos.x").override "Cos"
          Template.difference).lookupVar n) ∧
    (∀ n ∈ (Expr.application "Sin" [.identifier "Sin"]).applications,
      (Bindings.empty.var "Sin" "0.5").lookupOverride n =
        (((Bindings.empty.var "Sin" "0.5").var "x" "pos.x").override "Cos"
          Template.difference).lookupOverride n) ∧
    compile (.application "Sin" [.identifier "Sin"]) (Bindings.empty.var "Sin" "0.5") =
      compile (.application "Sin" [.identifier "Sin"])
        (((Bindings.empty.var "Sin" "0.5").var "x" "pos.x").override "Cos" Template.difference) :=
  have hvars : ∀ n ∈ (Expr.application "Sin" [.identifier "Sin"]).identifiers,
      (Bindings.empty.var "Sin" "0.5").lookupVar n =
        (((Bindings.empty.var "Sin" "0.5").var "x" "pos.x").override "Cos"
          Template.difference).lookupVar n := by
    decide
  have hoverrides : ∀ n ∈ (Expr.application "Sin" [.identifier "Sin"]).applications,
      (Bindings.empty.var "Sin" "0.5").lookupOverride n =
        (((Bindings.empty.var "Sin" "0.5").var "x" "pos.x").override "Cos"
          Template.difference).lookupOverride n := by
    decide
  ⟨hvars, hoverrides, compile_reads_only_used_bindings _ _ _ hvars hoverrides⟩

example : compile (.application "Sin" [.identifier "Sin"]) (Bindings.empty.var "Sin" "0.5") =
    .ok "sin(0.5)" := by
  rfl

end FormulaShader
