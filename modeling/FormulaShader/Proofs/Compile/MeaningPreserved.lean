import Mathlib
import FormulaShader.Proofs.Compile.RuleReads

/-!
# Compiling keeps a formula's meaning

A compiled formula is an expression of the shading language with exactly one parse, and that
parse has the formula's value in every ordered field, whatever the builtins, `select` and the
names in the bound texts stand for. Two things are asked of the bindings: every override is
the signed difference `({0} - {1})` that the implicit plot mode puts in place of `Equal`, and
the text bound to each identifier of the formula is a primary expression (a name, a member or
an index of one, a call, an unsigned decimal, or an expression in parentheses).

The proof follows the compiler over the tree. A literal is written as the decimal its single
is worth, with a leading minus when it is negative; an identifier as its bound text; an
operation by the rule of the library for its name, which writes what the name means
(`Rule.apply_reads`), or by the difference override (`difference_reads`). What a parent writes
around an operand depends only on the operand's precedence tag, and `Emitted.Reads` carries
the fact that the tag never claims more than the text binds.

Results:
* `IsPrimary`: text that is a primary expression.
* `emit_reads`, `emitAll_reads`: every compiled subtree reads as its value.
* `compile_preserves_meaning`, with the implicit mode's paraboloid as an instance.
-/

namespace FormulaShader

open Wgsl

/-- Text that is a primary expression of the shading language: its tokens are those of a
well-formed atom. -/
def IsPrimary (text : String) : Prop :=
  ∃ p : Term, p.WF ∧ p.cat = .atom ∧ lex text.toList = p.tokens

section

variable {α : Type} [Field α] [LinearOrder α] {I : Interp α} {b : Bindings}

theorem identifier_reads {name text : String} (hv : b.lookupVar name = some text)
    (hp : IsPrimary text) : (Emitted.atom text).Reads I ((Expr.identifier name).value b I) := by
  obtain ⟨p, hwf, hcat, hlex⟩ := hp
  have hparse : parse text = some p := parse_of_lex hwf hlex
  refine ⟨p, hwf, by rw [hcat]; exact le_refl _, hlex, ?_⟩
  simp [Expr.value, hv, hparse]

theorem literal_reads {x : Binary64} {em : Emitted} (h : emitLiteral x = .ok em) :
    em.Reads I ((Expr.literal x).value b I) := by
  obtain ⟨hfin, rfl⟩ := emitLiteral_eq_ok.1 h
  obtain ⟨t, hwf, hcat, hlex, heval⟩ := x.toBinary32.literalText_reads hfin
  exact ⟨t, hwf, by rw [hcat], hlex, by rw [heval, Expr.value]⟩

theorem Template.difference_arity : Template.difference.arity = 2 := rfl

mutual

/-- Every compiled subtree reads as its value. The induction follows the tree; at an
application the operands come first, then the rule or the override does the step. -/
theorem emit_reads
    (hover : ∀ name t, b.lookupOverride name = some t → name = "Equal" ∧ t = Template.difference) :
    ∀ (d : Nat) (e : Expr) (em : Emitted),
      (∀ name ∈ e.identifierList, ∀ text, b.lookupVar name = some text → IsPrimary text) →
      emit b d e = .ok em → em.Reads I (e.value b I)
  | d, .literal x, em, _, h => literal_reads (emit_literal_eq_ok.1 h).2
  | d, .identifier name, em, hvars, h => by
    obtain ⟨-, text, hv, rfl⟩ := emit_identifier_eq_ok.1 h
    exact identifier_reads hv (hvars name (by simp [Expr.identifierList]) text hv)
  | d, .application name args, em, hvars, h => by
    have hargs : ∀ n ∈ Expr.identifierListAll args, ∀ text, b.lookupVar n = some text →
        IsPrimary text := by
      simpa [Expr.identifierList] using hvars
    obtain ⟨-, out, hout, ⟨t, ho, harity, rfl⟩ | ⟨ho, rule, hl, hacc, rfl⟩⟩ :=
      emit_application_eq_ok.1 h
    · -- the only override is the signed difference, of two operands
      obtain ⟨-, rfl⟩ := hover name t ho
      have hlen : out.length = 2 := by
        rw [emitAll_length hout, ← harity, Template.difference_arity]
      obtain ⟨el, er, a, c, rfl, hvs, hl, hr⟩ :=
        forall₂_of_length_two (emitAll_reads hover (d + 1) args out hargs hout) hlen
      simp only [Expr.value, ho, if_true, hvs]
      exact difference_reads hl hr
    · simp only [Expr.value, ho]
      refine Rule.apply_reads (lookup_writes hl) ?_ (emitAll_reads hover (d + 1) args out hargs hout)
      rwa [emitAll_length hout]
  | d, .foreign _, em, _, h => absurd h emit_foreign_ne_ok

/-- Compiled operands read as their values, in order. -/
theorem emitAll_reads
    (hover : ∀ name t, b.lookupOverride name = some t → name = "Equal" ∧ t = Template.difference) :
    ∀ (d : Nat) (es : List Expr) (ems : List Emitted),
      (∀ name ∈ Expr.identifierListAll es, ∀ text, b.lookupVar name = some text → IsPrimary text) →
      emitAll b d es = .ok ems → List.Forall₂ (fun em v => em.Reads I v) ems (Expr.valueAll b I es)
  | d, [], ems, _, h => by
    rw [emitAll_nil_eq_ok.1 h]
    exact .nil
  | d, e :: es, ems, hvars, h => by
    obtain ⟨x, xs, hx, hxs, rfl⟩ := emitAll_cons_eq_ok.1 h
    rw [Expr.valueAll]
    exact .cons
      (emit_reads hover d e x (fun n hn => hvars n (by simp [Expr.identifierListAll, hn])) hx)
      (emitAll_reads hover d es xs (fun n hn => hvars n (by simp [Expr.identifierListAll, hn])) hxs)

end

end

/-- Compiling keeps a formula's meaning. Under bindings whose only override is the implicit
mode's signed difference for `Equal`, and whose texts for the identifiers of the formula are
primary expressions, the compiled text parses, and its one parse has the formula's value in
every ordered field, whatever the builtins and `select` stand for. -/
theorem compile_preserves_meaning (e : Expr) (b : Bindings)
    (hover : ∀ name t, b.lookupOverride name = some t → name = "Equal" ∧ t = Template.difference)
    (hvars : ∀ name ∈ e.identifierList, ∀ text, b.lookupVar name = some text → IsPrimary text)
    {f : String} (hf : compile e b = .ok f) :
    ∃ t : Term, parse f = some t ∧
      ∀ (α : Type) [Field α] [LinearOrder α] (I : Interp α), t.eval I = e.value b I := by
  obtain ⟨em, hem, rfl⟩ : ∃ em, emit b 1 e = .ok em ∧ em.code = f := by
    simp only [compile] at hf
    cases h : emit b 1 e with
    | error _ => simp [h, Except.map] at hf
    | ok em => exact ⟨em, rfl, by simpa [h, Except.map] using hf⟩
  -- at each interpretation the text reads as the value, through its parse
  have hread : ∀ {α : Type} [Field α] [LinearOrder α] (I : Interp α),
      ∃ t, parse em.code = some t ∧ t.eval I = e.value b I := by
    intro α _ _ I
    obtain ⟨t, hwf, -, hlex, heval⟩ := @emit_reads α _ _ I b hover 1 e em hvars hem
    exact ⟨t, parse_of_lex hwf hlex, heval⟩
  -- and the parse is one tree, whatever the interpretation
  obtain ⟨t, ht, -⟩ := @hread ℚ _ _ ⟨fun _ => 0, fun _ _ => 0, fun _ _ => 0, fun _ _ => 0,
    fun _ _ _ => 0⟩
  refine ⟨t, ht, fun α _ _ I => ?_⟩
  obtain ⟨t', ht', heval⟩ := hread I
  rw [ht, Option.some.injEq] at ht'
  rw [ht', heval]

/-- The implicit mode's paraboloid `x² + y² = z - y`: its text parses, and the parse has the
formula's value. -/
theorem implicit_paraboloid_preserves_meaning :
    compile (.application "Equal"
        [.application "Add" [.application "Square" [.identifier "x"],
          .application "Square" [.identifier "y"]],
         .application "Subtract" [.identifier "z", .identifier "y"]]) PlotMode.implicit.bindings =
      .ok "(((pos.x * pos.x) + (pos.y * pos.y)) - (pos.z - pos.y))" ∧
    ∃ t : Term, parse "(((pos.x * pos.x) + (pos.y * pos.y)) - (pos.z - pos.y))" = some t ∧
      ∀ (α : Type) [Field α] [LinearOrder α] (I : Interp α),
        t.eval I = (Expr.application "Equal"
          [.application "Add" [.application "Square" [.identifier "x"],
            .application "Square" [.identifier "y"]],
           .application "Subtract" [.identifier "z", .identifier "y"]]).value PlotMode.implicit.bindings I := by
  have hover : ∀ name t, PlotMode.implicit.bindings.lookupOverride name = some t →
      name = "Equal" ∧ t = Template.difference := by
    have hall : ∀ p ∈ PlotMode.implicit.bindings.overrides.entries,
        p.1 = "Equal" ∧ p.2 = Template.difference := by
      decide
    exact fun name t h => hall (name, t) (NameMap.mem_entries_of_find? h)
  have hpos : ∀ field ∈ ["x", "y", "z"], IsPrimary ("pos." ++ field) := by
    intro field hfield
    simp only [List.mem_cons, List.not_mem_nil, or_false] at hfield
    rcases hfield with rfl | rfl | rfl
    · exact ⟨.member (.ident "pos") "x", ⟨trivial, rfl⟩, rfl, by decide⟩
    · exact ⟨.member (.ident "pos") "y", ⟨trivial, rfl⟩, rfl, by decide⟩
    · exact ⟨.member (.ident "pos") "z", ⟨trivial, rfl⟩, rfl, by decide⟩
  have hvars : ∀ name ∈ ["x", "y", "z"], ∀ text,
      PlotMode.implicit.bindings.lookupVar name = some text → IsPrimary text := by
    intro name hname text htext
    have hbound : PlotMode.implicit.bindings.lookupVar name = some ("pos." ++ name) := by
      simp only [List.mem_cons, List.not_mem_nil, or_false] at hname
      rcases hname with rfl | rfl | rfl <;> rfl
    rw [hbound, Option.some.injEq] at htext
    exact htext ▸ hpos name hname
  have hc : compile (.application "Equal"
        [.application "Add" [.application "Square" [.identifier "x"],
          .application "Square" [.identifier "y"]],
         .application "Subtract" [.identifier "z", .identifier "y"]]) PlotMode.implicit.bindings =
      .ok "(((pos.x * pos.x) + (pos.y * pos.y)) - (pos.z - pos.y))" := by
    rfl
  refine ⟨hc, compile_preserves_meaning _ _ hover (fun name hname => hvars name ?_) hc⟩
  simp only [Expr.identifierList, Expr.identifierListAll, List.append_nil, List.mem_append,
    List.mem_cons, List.not_mem_nil, or_false] at hname ⊢
  tauto

end FormulaShader
