import FormulaShader.Compile.Basic

/-!
# What a successful compile is made of

One lemma for each kind of node says all that a successful compile of the node can be: the
node stands within the depth limit, and a literal's single is finite, an identifier is bound,
or an application's override or library rule takes the operand count and its operands compile
one level down; a foreign node never compiles. Siblings compile one after another, one text
each. Proofs about what the compiler writes take a successful compile apart with these lemmas
and do not unfold `emit`.

Results:
* `emitLiteral_eq_ok`, `emit_literal_eq_ok`, `emit_identifier_eq_ok`,
  `emit_application_eq_ok`, `emit_foreign_ne_ok`: the nodes.
* `emitAll_nil_eq_ok`, `emitAll_cons_eq_ok`, `emitAll_length`: the operands.
* `compile_eq_ok_iff`: a compiled formula is the text of its root.
-/

namespace FormulaShader

/-- A literal is written as its single, tagged unary when the sign bit is set. -/
theorem emitLiteral_eq_ok {x : Binary64} {em : Emitted} :
    emitLiteral x = .ok em ↔ x.toBinary32.isFinite ∧
      em = ⟨x.toBinary32.literalText, if x.toBinary32.signBitSet then .unary else .atom⟩ := by
  by_cases hfin : x.toBinary32.isFinite <;> simp [emitLiteral, hfin, @eq_comm _ em]

variable {b : Bindings} {d : Nat} {em : Emitted}

theorem emit_literal_eq_ok {x : Binary64} :
    emit b d (.literal x) = .ok em ↔ d ≤ maxDepth ∧ emitLiteral x = .ok em := by
  by_cases hd : d > maxDepth
  · simp [emit, hd, Nat.not_le.2 hd]
  · simp [emit, hd, Nat.le_of_not_gt hd]

theorem emit_identifier_eq_ok {name : String} :
    emit b d (.identifier name) = .ok em ↔
      d ≤ maxDepth ∧ ∃ text, b.lookupVar name = some text ∧ em = .atom text := by
  by_cases hd : d > maxDepth
  · simp [emit, hd, Nat.not_le.2 hd]
  · cases hv : b.lookupVar name <;> simp [emit, hd, hv, Nat.le_of_not_gt hd, @eq_comm _ em]

/-- An application compiles by the override's template, its arity equal to the operand count,
or else by the library rule, its arity accepting the count; in both cases over its operands
compiled one level down. -/
theorem emit_application_eq_ok {name : String} {args : List Expr} :
    emit b d (.application name args) = .ok em ↔ d ≤ maxDepth ∧
      ∃ out, emitAll b (d + 1) args = .ok out ∧
        ((∃ t, b.lookupOverride name = some t ∧ t.arity = args.length ∧
            em = .atom (t.render (out.map Emitted.grouped))) ∨
          (b.lookupOverride name = none ∧ ∃ rule, lookup name = some rule ∧
            rule.arity.accepts args.length ∧ em = rule.emit.apply rule.arity out)) := by
  by_cases hd : d > maxDepth
  · simp [emit, hd, Nat.not_le.2 hd]
  simp only [emit, hd, if_false, Nat.le_of_not_gt hd, true_and]
  -- the override is looked up first, the library only without one
  cases ho : b.lookupOverride name with
  | some t =>
    by_cases ha : t.arity = args.length
    · cases emitAll b (d + 1) args <;>
        simp [ha, bind, Except.bind, pure, Except.pure, @eq_comm _ em]
    · simp [ha]
  | none =>
    cases hl : lookup name with
    | none => simp
    | some rule =>
      by_cases ha : rule.arity.accepts args.length
      · cases emitAll b (d + 1) args <;>
        simp [ha, bind, Except.bind, pure, Except.pure, @eq_comm _ em]
      · simp [ha]

theorem emit_foreign_ne_ok {desc : String} : emit b d (.foreign desc) ≠ .ok em := by
  simp only [emit]
  split <;> simp

theorem emitAll_nil_eq_ok {ems : List Emitted} : emitAll b d [] = .ok ems ↔ ems = [] := by
  rw [emitAll, Except.ok.injEq, eq_comm]

theorem emitAll_cons_eq_ok {e : Expr} {es : List Expr} {ems : List Emitted} :
    emitAll b d (e :: es) = .ok ems ↔
      ∃ x xs, emit b d e = .ok x ∧ emitAll b d es = .ok xs ∧ ems = x :: xs := by
  simp only [emitAll]
  cases emit b d e <;> cases emitAll b d es <;>
    simp [bind, Except.bind, pure, Except.pure, @eq_comm _ ems]

/-- Operands compile to one text each. -/
theorem emitAll_length : ∀ {es : List Expr} {out : List Emitted},
    emitAll b d es = .ok out → out.length = es.length
  | [], out, h => by simp [emitAll_nil_eq_ok.1 h]
  | e :: es, out, h => by
    obtain ⟨x, xs, -, hxs, rfl⟩ := emitAll_cons_eq_ok.1 h
    simp [emitAll_length hxs]

theorem compile_eq_ok_iff {e : Expr} {f : String} :
    compile e b = .ok f ↔ ∃ em, emit b 1 e = .ok em ∧ em.code = f := by
  rw [compile]
  cases emit b 1 e <;> simp [Except.map]

end FormulaShader
