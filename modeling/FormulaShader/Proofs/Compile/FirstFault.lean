import FormulaShader.Compile.Basic

/-!
# Which error a compile reports

The compiler checks a node when it reaches it and before it looks at any operand of the node:
first the depth limit, then what the node needs of its own (a finite single for a literal, a
binding for an identifier; for an application an override whose arity is the operand count,
or else a library rule whose arity accepts it; a foreign node never passes). The operands are
then compiled left to right, and the first error stops everything.

So a compile fails with the fault of the first faulty node in pre-order, the root at level 1
and each operand one level below its parent, and it succeeds exactly when no node is faulty.
The traversal that lists the nodes is written independently of the compiler.

Results:
* `Expr.levelled`: the nodes of a tree in pre-order, each with its nesting level.
* `ownFault`, `nodeFault`: the error a node raises by its own check.
* `emit_eq_error_iff`: the error of a compile from any level is the first fault below it.
* `compile_reports_first_fault`: a compile succeeds iff no node is faulty, and otherwise fails
  with the fault of the first faulty node in pre-order.
-/

namespace FormulaShader

namespace Expr

mutual

/-- The nodes of a tree in pre-order, each with its nesting level, the root at `level`. -/
def levelled (level : Nat) : Expr → List (Nat × Expr)
  | .literal x => [(level, .literal x)]
  | .identifier name => [(level, .identifier name)]
  | .application name args => (level, .application name args) :: levelledAll (level + 1) args
  | .foreign d => [(level, .foreign d)]

def levelledAll (level : Nat) : List Expr → List (Nat × Expr)
  | [] => []
  | e :: es => levelled level e ++ levelledAll level es

end

end Expr

/-- What a node needs of its own, whatever its operands are. An application looks for an
override first, then for a library rule, and only then tests the arity. -/
def ownFault (b : Bindings) : Expr → Option CompileError
  | .literal x => if x.toBinary32.isFinite then none else some (.nonFiniteLiteral x)
  | .identifier name =>
    match b.lookupVar name with
    | some _ => none
    | none => some (.unresolvedIdentifier name)
  | .application name args =>
    match b.lookupOverride name with
    | some t =>
      if t.arity = args.length then none
      else some (.arityMismatch name (.exact t.arity) args.length)
    | none =>
      match lookup name with
      | none => some (.unknownApplication name)
      | some rule =>
        if rule.arity.accepts args.length then none
        else some (.arityMismatch name rule.arity args.length)
  | .foreign d => some (.unrecognizedNode d)

/-- The error a node at nesting `level` raises by its own check: past the depth limit it is
too deep, whatever it is. -/
def nodeFault (b : Bindings) (level : Nat) (e : Expr) : Option CompileError :=
  if level > maxDepth then some (.tooDeep maxDepth) else ownFault b e

/-- The fault of the first faulty node of a listing, if there is one. -/
def firstFault (b : Bindings) (nodes : List (Nat × Expr)) : Option CompileError :=
  nodes.findSome? fun p => nodeFault b p.1 p.2

section

variable (b : Bindings)

@[simp] theorem firstFault_nil : firstFault b [] = none := rfl

@[simp] theorem firstFault_cons (p : Nat × Expr) (ps : List (Nat × Expr)) :
    firstFault b (p :: ps) = (nodeFault b p.1 p.2).or (firstFault b ps) := by
  simp only [firstFault, List.findSome?_cons]
  cases nodeFault b p.1 p.2 <;> rfl

@[simp] theorem firstFault_append (ps qs : List (Nat × Expr)) :
    firstFault b (ps ++ qs) = (firstFault b ps).or (firstFault b qs) := by
  simp [firstFault, List.findSome?_append]

theorem nodeFault_of_gt {d : Nat} (e : Expr) (hd : d > maxDepth) :
    nodeFault b d e = some (.tooDeep maxDepth) := by
  simp [nodeFault, hd]

theorem nodeFault_of_le {d : Nat} (e : Expr) (hd : ¬ d > maxDepth) :
    nodeFault b d e = ownFault b e := by
  simp [nodeFault, hd]

end

theorem Except.map_eq_error_iff {ε α β : Type} {x : Except ε α} {f : α → β} {err : ε} :
    f <$> x = .error err ↔ x = .error err := by
  cases x <;> simp [Functor.map, Except.map]

/-- A computation that fails exactly with the errors an option names succeeds exactly when
the option is empty. -/
theorem Except.ok_iff_of_error_iff {ε α : Type} {x : Except ε α} {o : Option ε}
    (h : ∀ err, x = .error err ↔ o = some err) : (∃ a, x = .ok a) ↔ o = none := by
  cases x with
  | error e => simp [(h e).1 rfl]
  | ok a =>
    cases o with
    | none => simp
    | some e => simpa using (h e).2 rfl

variable (b : Bindings)

mutual

/-- Compiling a tree that stands at level `d` fails with `err` exactly when `err` is the first
fault among its nodes in pre-order. The induction follows the tree; at an application the
node's own check comes first, and only when it passes do the operands decide. -/
theorem emit_eq_error_iff : ∀ (d : Nat) (e : Expr) (err : CompileError),
    emit b d e = .error err ↔ firstFault b (e.levelled d) = some err
  | d, .literal x, err => by
    by_cases hd : d > maxDepth
    · simp [emit, Expr.levelled, nodeFault_of_gt b _ hd, hd]
    · simp only [emit, Expr.levelled, firstFault_cons, firstFault_nil, nodeFault_of_le b _ hd,
        hd, if_false, ownFault, emitLiteral]
      split <;> simp
  | d, .identifier name, err => by
    by_cases hd : d > maxDepth
    · simp [emit, Expr.levelled, nodeFault_of_gt b _ hd, hd]
    · simp only [emit, Expr.levelled, firstFault_cons, firstFault_nil, nodeFault_of_le b _ hd,
        hd, if_false, ownFault]
      cases b.lookupVar name <;> simp
  | d, .application name args, err => by
    by_cases hd : d > maxDepth
    · simp [emit, Expr.levelled, nodeFault_of_gt b _ hd, hd]
    · simp only [emit, Expr.levelled, firstFault_cons, nodeFault_of_le b _ hd, hd, if_false,
        ownFault]
      -- the same three lookups in the same order on both sides
      cases b.lookupOverride name with
      | some t =>
        by_cases ha : t.arity = args.length
        · simpa [ha, Except.map_eq_error_iff] using emitAll_eq_error_iff (d + 1) args err
        · simp [ha]
      | none =>
        cases lookup name with
        | none => simp
        | some rule =>
          by_cases ha : rule.arity.accepts args.length
          · simpa [ha, Except.map_eq_error_iff] using emitAll_eq_error_iff (d + 1) args err
          · simp [ha]
  | d, .foreign desc, err => by
    by_cases hd : d > maxDepth
    · simp [emit, Expr.levelled, nodeFault_of_gt b _ hd, hd]
    · simp [emit, Expr.levelled, nodeFault_of_le b _ hd, hd, ownFault]

theorem emitAll_eq_error_iff : ∀ (d : Nat) (es : List Expr) (err : CompileError),
    emitAll b d es = .error err ↔ firstFault b (Expr.levelledAll d es) = some err
  | d, [], err => by simp [emitAll, Expr.levelledAll]
  | d, e :: es, err => by
    have he := emit_eq_error_iff d e
    have hes := emitAll_eq_error_iff d es err
    simp only [emitAll, Expr.levelledAll, firstFault_append]
    cases hf : firstFault b (e.levelled d) with
    | some f =>
      rw [(he f).2 hf]
      simp [bind, Except.bind]
    | none =>
      -- the first sibling compiles, so the later ones decide
      obtain ⟨x, hx⟩ := (Except.ok_iff_of_error_iff he).2 hf
      rw [hx, Option.none_or, ← hes]
      cases emitAll b d es <;> simp [bind, Except.bind, pure, Except.pure]

end

theorem compile_reports_first_fault (e : Expr) :
    ((∃ code, compile e b = .ok code) ↔ ∀ p ∈ e.levelled 1, nodeFault b p.1 p.2 = none) ∧
      ∀ err, compile e b = .error err ↔ firstFault b (e.levelled 1) = some err := by
  have herr : ∀ err, compile e b = .error err ↔ firstFault b (e.levelled 1) = some err := by
    intro err
    rw [compile, ← emit_eq_error_iff]
    cases emit b 1 e <;> simp [Except.map]
  refine ⟨?_, herr⟩
  rw [Except.ok_iff_of_error_iff herr, firstFault, List.findSome?_eq_none_iff]

/-- The arity of a node is tested before its operands, so an unbound operand goes unseen. -/
example : compile (.application "Sqrt" [.identifier "w", .identifier "w"]) Bindings.empty =
    .error (.arityMismatch "Sqrt" (.exact 1) 2) := by
  rfl

end FormulaShader
