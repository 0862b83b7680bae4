import Mathlib
import FormulaShader.Proofs.Compile.MeaningPreserved

/-!
# Precedence tags are sound

Every piece of text the compiler emits carries a precedence tag, and a parent decides its
parentheses from the tag alone. A tag is sound when the text is an expression of the
grammar's category for that tag: an atom is a primary expression (an unsigned number, a name
with its member accesses and indices, a call, or text in parentheses), a unary tag marks a
unary expression, a multiplicative tag a multiplicative one and an additive tag an additive
one. Each category holds the tighter ones, and the reader of each level (`parseAt`) decides
it: text is an expression of a level when that level's reader takes the whole of it.

Grouping turns text with a sound tag into a primary expression whose parentheses hold the
text's own parse. Under the bindings that keep a formula's meaning, every piece of text the
compiler emits has a sound tag: the `Emitted.Reads` invariant behind
`compile_preserves_meaning` carries, besides the value, a well-formed tree that binds at least
as tightly as the tag, and such a tree is read back at every level its category allows.

Results:
* `Wgsl.IsExprAt`: text that is an expression of a given level, read as a given tree.
* `Wgsl.isExprAt_of_tokens`: the tokens of a well-formed tree make an expression of every level
  no tighter than the tree.
* `Emitted.isExprAt_grouped`: grouped text is a primary expression around the same parse.
* `emit_tags_sound`: every emitted text is an expression of its tag's level, and its grouping is
  a primary expression around its parse.
-/

namespace FormulaShader

open Wgsl

namespace Wgsl

/-- Text that is an expression of level `p`, read as the tree `t`: a primary expression for
`atom`, a unary, multiplicative or additive expression for the others. The reader of that
level takes the whole text. -/
def IsExprAt (p : Precedence) (text : String) (t : Term) : Prop :=
  parseAt p (lex text.toList) = some (t, [])

/-- An additive expression is a whole text that parses. -/
theorem isExprAt_additive_iff {text : String} {t : Term} :
    IsExprAt .additive text t ↔ parse text = some t := by
  unfold IsExprAt parse
  constructor
  · intro h
    rw [h]
  · intro h
    split at h
    · rename_i t' hread
      cases h
      exact hread
    · cases h

/-- Text whose tokens are those of a well-formed tree is an expression of every level no
tighter than the tree, read as that tree. -/
theorem isExprAt_of_tokens {text : String} {t : Term} (hwf : t.WF)
    (hlex : lex text.toList = t.tokens) {p : Precedence} (hp : p.rank ≤ t.cat.rank) :
    IsExprAt p text t := by
  have hread := parseAt_tokens hwf hp (@ends_nil p)
  rw [List.append_nil] at hread
  rw [IsExprAt, hlex, hread]

end Wgsl

/-- The text of `grouped`: a primary expression whose parentheses, if it has any, hold the
parse of the text. -/
theorem Emitted.isExprAt_grouped {em : Emitted} {t : Term} (hwf : t.WF)
    (hcat : em.prec.rank ≤ t.cat.rank) (hlex : lex em.code.toList = t.tokens) :
    IsExprAt .atom em.grouped (if em.prec = .atom then t else .paren t) := by
  unfold Emitted.grouped
  split
  · -- a looser tag is wrapped, and the parentheses hold the tree
    rename_i hlt
    have hne : em.prec ≠ .atom := by
      rintro hatom
      rw [hatom] at hlt
      exact Nat.lt_irrefl _ hlt
    rw [if_neg hne]
    refine isExprAt_of_tokens (t := .paren t) hwf ?_ (le_refl _)
    rw [lex_wrap, hlex]
    rfl
  · -- an atom is left as it is
    rename_i hlt
    have hatom : em.prec = .atom := Precedence.eq_atom_of_rank_le (Nat.not_lt.1 hlt)
    rw [if_pos hatom]
    rw [hatom] at hcat
    exact isExprAt_of_tokens hwf hlex hcat

/-- Every precedence tag the compiler emits is sound. Under bindings whose only override is
the implicit mode's signed difference for `Equal`, and whose texts for the identifiers of the
tree are primary expressions, the text of every compiled subtree parses as a tree that binds at
least as tightly as the tag; the text is an expression of the tag's level, read as that same
tree; and the grouped text is a primary expression whose parentheses hold that tree. -/
theorem emit_tags_sound {b : Bindings}
    (hover : ∀ name t, b.lookupOverride name = some t → name = "Equal" ∧ t = Template.difference)
    {d : Nat} {e : Expr} {em : Emitted}
    (hvars : ∀ name ∈ e.identifierList, ∀ text, b.lookupVar name = some text → IsPrimary text)
    (h : emit b d e = .ok em) :
    ∃ t : Term, parse em.code = some t ∧ em.prec.rank ≤ t.cat.rank ∧
      IsExprAt em.prec em.code t ∧
      IsExprAt .atom em.grouped (if em.prec = .atom then t else .paren t) := by
  -- the tree comes with a value in any interpretation; the rationals with every name at zero
  -- will do
  obtain ⟨t, hwf, hcat, hlex, -⟩ := @emit_reads ℚ _ _
    ⟨fun _ => 0, fun _ _ => 0, fun _ _ => 0, fun _ _ => 0, fun _ _ _ => 0⟩ b hover d e em hvars h
  refine ⟨t, isExprAt_additive_iff.1 (isExprAt_of_tokens hwf hlex (Nat.zero_le _)), hcat,
    isExprAt_of_tokens hwf hlex hcat, Emitted.isExprAt_grouped hwf hcat hlex⟩

/-- A double too small for a single rounds to `-0.0`, which is written with its sign and so
is tagged as a unary minus: its text is a unary expression, and grouped it is a primary one. -/
theorem vanishing_literal_tagged_unary :
    emit Bindings.empty 1 (.literal (Binary64.ofBits 13078453317883920384)) =
      .ok ⟨"-0.0", .unary⟩ ∧
    ∃ t : Term, parse "-0.0" = some t ∧ Precedence.unary.rank ≤ t.cat.rank ∧
      IsExprAt .unary "-0.0" t ∧ IsExprAt .atom "(-0.0)" (.paren t) := by
  have hemit : emit Bindings.empty 1 (.literal (Binary64.ofBits 13078453317883920384)) =
      .ok ⟨"-0.0", .unary⟩ := by
    rfl
  have hover : ∀ name t, Bindings.empty.lookupOverride name = some t →
      name = "Equal" ∧ t = Template.difference := by
    intro name t h
    simp [Bindings.lookupOverride, Bindings.empty, NameMap.find?, NameMap.empty] at h
  obtain ⟨t, hparse, hcat, hexpr, hgrouped⟩ :=
    emit_tags_sound hover (fun name hname => by simp [Expr.identifierList] at hname) hemit
  exact ⟨hemit, t, hparse, hcat, hexpr, hgrouped⟩

end FormulaShader
