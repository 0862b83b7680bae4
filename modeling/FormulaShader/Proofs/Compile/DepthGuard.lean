import FormulaShader.Proofs.Compile.FirstFault
import FormulaShader.Bindings.Mode

/-!
# The depth guard

The compiler refuses any node nested deeper than `maxDepth` levels, counting the root as
level 1 and each operand one level below its parent, while the depth of a tree counts the
nodes on its longest path, a leaf as one. The two counts meet at the same place: the nodes of a
tree standing at level `d` reach down to level `d + depth - 1` and no further.

So the guard is invisible on trees of depth at most `maxDepth`: there the compiler gives what
the same compiler without the guard gives, and never reports depth. A deeper tree always fails,
and it fails for being too deep unless the pre-order traversal, which checks each node's own
needs before its operands, meets another faulty node first.

Results:
* `emitUnbounded`, `compileUnbounded`: the compiler without its depth test.
* `emit_eq_unbounded`: within the limit the guarded compiler is the unguarded one.
* `emitUnbounded_ne_tooDeep`: the unguarded compiler never reports depth.
* `Expr.exists_levelled_deepest`: some node of the pre-order listing stands at the tree's depth.
* `compile_depth_guard`: the guard agrees with the depth of the tree at the boundary.
-/

namespace FormulaShader

mutual

/-- Compiles a tree as `emit` does, with no limit on its nesting. -/
def emitUnbounded (b : Bindings) : Expr → Except CompileError Emitted
  | .literal x => emitLiteral x
  | .identifier name =>
    match b.lookupVar name with
    | some text => .ok (.atom text)
    | none => .error (.unresolvedIdentifier name)
  | .application name args =>
    match b.lookupOverride name with
    | some t =>
      if t.arity ≠ args.length then .error (.arityMismatch name (.exact t.arity) args.length)
      else do
        let out ← emitAllUnbounded b args
        pure (.atom (t.render (out.map Emitted.grouped)))
    | none =>
      match lookup name with
      | none => .error (.unknownApplication name)
      | some rule =>
        if !rule.arity.accepts args.length then
          .error (.arityMismatch name rule.arity args.length)
        else do
          let out ← emitAllUnbounded b args
          pure (rule.emit.apply rule.arity out)
  | .foreign d => .error (.unrecognizedNode d)

def emitAllUnbounded (b : Bindings) : List Expr → Except CompileError (List Emitted)
  | [] => .ok []
  | e :: es => do
    let x ← emitUnbounded b e
    let xs ← emitAllUnbounded b es
    pure (x :: xs)

end

/-- Compiles a formula with no limit on its nesting. -/
def compileUnbounded (e : Expr) (b : Bindings) : Except CompileError String :=
  (emitUnbounded b e).map Emitted.code

namespace Expr

@[simp] theorem depth_application (name : String) (args : List Expr) :
    (application name args).depth = 1 + depthMax args := by
  simp [depth]

theorem depth_nest (head : String) (n : Nat) (e : Expr) : (nest head n e).depth = n + e.depth := by
  induction n generalizing e with
  | zero => simp [nest]
  | succ n ih => simp [nest, ih, depthMax]; omega

mutual

/-- Some node of a tree listed from level `d` stands at level `d + depth - 1`. The induction
follows the tree; at an application the deepest operand gives the node, unless there is none
and the application is its own deepest node. -/
theorem exists_levelled_deepest : ∀ (d : Nat) (e : Expr), ∃ p ∈ e.levelled d, p.1 + 1 = d + e.depth
  | d, .literal x => ⟨(d, .literal x), by simp [levelled], by simp [depth]⟩
  | d, .identifier name => ⟨(d, .identifier name), by simp [levelled], by simp [depth]⟩
  | d, .application name args => by
    by_cases h : depthMax args = 0
    · exact ⟨(d, .application name args), by simp [levelled], by simp [h]⟩
    · obtain ⟨p, hp, hlevel⟩ := exists_levelledAll_deepest (d + 1) args (Nat.pos_of_ne_zero h)
      exact ⟨p, by simp [levelled, hp], by simp only [depth_application]; omega⟩
  | d, .foreign desc => ⟨(d, .foreign desc), by simp [levelled], by simp [depth]⟩

theorem exists_levelledAll_deepest :
    ∀ (d : Nat) (es : List Expr), 0 < depthMax es →
      ∃ p ∈ levelledAll d es, p.1 + 1 = d + depthMax es
  | d, [], h => by simp [depthMax] at h
  | d, e :: es, _ => by
    simp only [depthMax, levelledAll, List.mem_append]
    by_cases hle : depthMax es ≤ e.depth
    · obtain ⟨p, hp, hlevel⟩ := exists_levelled_deepest d e
      exact ⟨p, .inl hp, by omega⟩
    · obtain ⟨p, hp, hlevel⟩ := exists_levelledAll_deepest d es (by omega)
      exact ⟨p, .inr hp, by omega⟩

end

end Expr

section

variable (b : Bindings)

mutual

/-- A tree whose nodes all stand within the limit compiles as it would with no limit. The
hypothesis bounds the deepest level the tree reaches from level `d`. -/
theorem emit_eq_unbounded : ∀ (d : Nat) (e : Expr), d + e.depth ≤ maxDepth + 1 →
    emit b d e = emitUnbounded b e
  | d, .literal x, h => by
    have hd : ¬ d > maxDepth := by simp [Expr.depth] at h; omega
    simp [emit, emitUnbounded, hd]
  | d, .identifier name, h => by
    have hd : ¬ d > maxDepth := by simp [Expr.depth] at h; omega
    cases hv : b.lookupVar name <;> simp only [emit, emitUnbounded, hd, if_false, hv]
  | d, .application name args, h => by
    rw [Expr.depth_application] at h
    have hd : ¬ d > maxDepth := by omega
    have hargs := emitAll_eq_unbounded (d + 1) args (by omega)
    -- the same lookups on both sides, decided alike
    cases ho : b.lookupOverride name with
    | some t => simp only [emit, emitUnbounded, hd, if_false, hargs, ho]
    | none => cases hl : lookup name <;> simp only [emit, emitUnbounded, hd, if_false, hargs, ho, hl]
  | d, .foreign desc, h => by
    have hd : ¬ d > maxDepth := by simp [Expr.depth] at h; omega
    simp [emit, emitUnbounded, hd]

theorem emitAll_eq_unbounded : ∀ (d : Nat) (es : List Expr), d + Expr.depthMax es ≤ maxDepth + 1 →
    emitAll b d es = emitAllUnbounded b es
  | d, [], _ => rfl
  | d, e :: es, h => by
    simp only [Expr.depthMax] at h
    rw [emitAll, emitAllUnbounded, emit_eq_unbounded d e (by omega),
      emitAll_eq_unbounded d es (by omega)]

end

mutual

/-- The unguarded compiler fails only by what a node needs of its own, never by depth. -/
theorem emitUnbounded_ne_tooDeep : ∀ (e : Expr) (n : Nat), emitUnbounded b e ≠ .error (.tooDeep n)
  | .literal x, n => by
    simp only [emitUnbounded, emitLiteral]
    split <;> simp
  | .identifier name, n => by
    simp only [emitUnbounded]
    cases b.lookupVar name <;> simp
  | .application name args, n => by
    have hargs := emitAllUnbounded_ne_tooDeep args n
    simp only [emitUnbounded]
    -- past the node's own checks only the operands can fail
    cases b.lookupOverride name with
    | some t =>
      by_cases ha : t.arity = args.length
      · simpa [ha, Except.map_eq_error_iff] using hargs
      · simp [ha]
    | none =>
      cases lookup name with
      | none => simp
      | some rule =>
        by_cases ha : rule.arity.accepts args.length
        · simpa [ha, Except.map_eq_error_iff] using hargs
        · simp [ha]
  | .foreign desc, n => by simp [emitUnbounded]

theorem emitAllUnbounded_ne_tooDeep :
    ∀ (es : List Expr) (n : Nat), emitAllUnbounded b es ≠ .error (.tooDeep n)
  | [], n => by simp [emitAllUnbounded]
  | e :: es, n => by
    have he := emitUnbounded_ne_tooDeep e n
    have hes := emitAllUnbounded_ne_tooDeep es n
    simp only [emitAllUnbounded]
    cases h : emitUnbounded b e with
    | error err => simpa [h, bind, Except.bind] using he
    | ok x =>
      cases hs : emitAllUnbounded b es with
      | error err => simpa [hs, bind, Except.bind] using hes
      | ok xs => simp [bind, Except.bind, pure, Except.pure]

end

end

theorem firstFault_of_deep (b : Bindings) {nodes : List (Nat × Expr)} {q : Nat × Expr}
    (hq : q ∈ nodes) (hdeep : maxDepth < q.1) : ∃ err, firstFault b nodes = some err := by
  rw [← Option.isSome_iff_exists, Option.isSome_iff_ne_none, firstFault, Ne,
    List.findSome?_eq_none_iff]
  intro hnone
  have hfault := nodeFault_of_gt b q.2 hdeep
  rw [hnone q hq] at hfault
  cases hfault

/-- The depth guard agrees with the depth of the tree at the boundary. A tree of depth at most
`maxDepth` compiles exactly as it would with no guard, and so never fails by depth. A deeper
tree fails: by depth, unless the pre-order traversal meets first a node that fails its own
check, one that stands within the limit, after nodes that all pass, and before some node past
the limit. -/
theorem compile_depth_guard (e : Expr) (b : Bindings) :
    (e.depth ≤ maxDepth →
      compile e b = compileUnbounded e b ∧ ∀ n, compile e b ≠ .error (.tooDeep n)) ∧
    (maxDepth < e.depth → ∃ err, compile e b = .error err ∧
      (err = .tooDeep maxDepth ∨
        ∃ pre p post, e.levelled 1 = pre ++ p :: post ∧
          (∀ q ∈ pre, nodeFault b q.1 q.2 = none) ∧ p.1 ≤ maxDepth ∧ ownFault b p.2 = some err ∧
          ∃ q ∈ post, maxDepth < q.1)) := by
  constructor
  · intro hdepth
    have heq : compile e b = compileUnbounded e b := by
      rw [compile, compileUnbounded, emit_eq_unbounded b 1 e (by omega)]
    refine ⟨heq, fun n h => ?_⟩
    rw [heq] at h
    exact emitUnbounded_ne_tooDeep b e n (Except.map_eq_error_iff.1 h)
  · intro hdepth
    -- the deepest node fails the depth test, so some node of the listing is faulty
    obtain ⟨q, hq, hlevel⟩ := Expr.exists_levelled_deepest 1 e
    have hqdeep : maxDepth < q.1 := by omega
    have hqfault := nodeFault_of_gt b q.2 hqdeep
    obtain ⟨err, herr⟩ := firstFault_of_deep b hq hqdeep
    have hcompile : compile e b = .error err :=
      Except.map_eq_error_iff.2 ((emit_eq_error_iff b 1 e err).2 herr)
    refine ⟨err, hcompile, ?_⟩
    obtain ⟨pre, p, post, hsplit, hp, hpre⟩ := List.findSome?_eq_some_iff.1 herr
    by_cases hpdeep : p.1 > maxDepth
    · left
      rw [nodeFault_of_gt b p.2 hpdeep] at hp
      exact (Option.some.inj hp).symm
    · right
      -- the deepest node is neither before the first faulty one nor that one itself
      have hqpost : q ∈ post := by
        rw [hsplit] at hq
        rcases List.mem_append.1 hq with hqpre | hqrest
        · simp [hpre q hqpre] at hqfault
        · rcases List.mem_cons.1 hqrest with rfl | hqpost
          · exact absurd hqdeep (by omega)
          · exact hqpost
      exact ⟨pre, p, post, hsplit, hpre, by omega, by rwa [nodeFault_of_le b p.2 hpdeep] at hp,
        q, hqpost, hqdeep⟩

/-- Minus signs stacked over a variable: 255 of them make a tree of depth exactly `maxDepth`,
which compiles as with no guard; one more is one level too deep. -/
theorem negation_tower_boundary :
    ((Expr.nest "Negate" 255 (.identifier "x")).depth ≤ maxDepth ∧
      compile (Expr.nest "Negate" 255 (.identifier "x")) PlotMode.surface.bindings =
        compileUnbounded (Expr.nest "Negate" 255 (.identifier "x")) PlotMode.surface.bindings ∧
      ∀ n, compile (Expr.nest "Negate" 255 (.identifier "x")) PlotMode.surface.bindings ≠
        .error (.tooDeep n)) ∧
    (maxDepth < (Expr.nest "Negate" 256 (.identifier "x")).depth ∧
      ∃ err, compile (Expr.nest "Negate" 256 (.identifier "x")) PlotMode.surface.bindings =
          .error err ∧
        (err = .tooDeep maxDepth ∨
          ∃ pre p post, (Expr.nest "Negate" 256 (.identifier "x")).levelled 1 = pre ++ p :: post ∧
            (∀ q ∈ pre, nodeFault PlotMode.surface.bindings q.1 q.2 = none) ∧ p.1 ≤ maxDepth ∧
            ownFault PlotMode.surface.bindings p.2 = some err ∧ ∃ q ∈ post, maxDepth < q.1)) :=
  have hshallow : (Expr.nest "Negate" 255 (.identifier "x")).depth ≤ maxDepth := by
    rw [Expr.depth_nest]
    decide
  have hdeep : maxDepth < (Expr.nest "Negate" 256 (.identifier "x")).depth := by
    rw [Expr.depth_nest]
    decide
  ⟨⟨hshallow, (compile_depth_guard _ _).1 hshallow⟩, ⟨hdeep, (compile_depth_guard _ _).2 hdeep⟩⟩

end FormulaShader
