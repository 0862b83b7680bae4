import Mathlib
import FormulaShader.Compile.Basic
import FormulaShader.Proofs.Compile.Reference

/-!
# What emitted text reads as

Each way the compiler writes an operation, read back as a shader expression. A piece of
emitted text *reads as* a value when its tokens are those of a well-formed tree with that
value which binds at least as tightly as the text's precedence tag says; a parent decides its
parentheses from the tag alone, so the tag must never promise more. From operands that read as
their values, each emission rule writes text that reads as the operation's value:

* an operator chain reads as the left-nested tree of its operator; an operand the compiler
  leaves unparenthesized after the first is a chain of the same level only under `+` or `*`,
  which associate, so the tree read back has the value of the nested formula;
* a leading minus, a call, a folded call and a comparison read as the tree of that shape.

Results:
* `Emitted.Reads`, `Emitted.Reads.grouped`: parenthesized text reads as an atom.
* `Term.graft`, `Term.eval_graft`: a chain joined to a chain of its own level.
* `emitChain_reads`, `unary_reads`, `call_reads`, `fold_reads`, `compare_reads`: the emission
  rules.
-/
namespace FormulaShader

open Wgsl

variable {α : Type} [Field α] [LinearOrder α] (I : Interp α)

/-- Emitted text reads as `v`: its tokens are those of a well-formed tree whose value is `v`
and that binds at least as tightly as the text is tagged. -/
def Emitted.Reads (em : Emitted) (v : α) : Prop :=
  ∃ t : Term, t.WF ∧ em.prec.rank ≤ t.cat.rank ∧ lex em.code.toList = t.tokens ∧ t.eval I = v

/-! ## Junctions -/

theorem lex_paren (s : List Char) : lex ('(' :: s ++ [')']) = .lparen :: lex s ++ [.rparen] := by
  rw [← List.singleton_append, List.append_assoc,
    lex_append_of_separator_last (by simp [IsSeparator]),
    lex_append_of_separator_head (by simp [IsSeparator])]
  rfl

theorem lex_wrap (s : String) : lex ("(" ++ s ++ ")").toList = .lparen :: lex s.toList ++ [.rparen] := by
  rw [String.toList_append, String.toList_append, show "(".toList = ['('] from rfl,
    show ")".toList = [')'] from rfl, List.singleton_append, lex_paren]

/-- A name lexes as one identifier token, and is no `select`. -/
def IsName (fn : String) : Prop := lex fn.toList = [.ident fn] ∧ fn ≠ "select"

instance : DecidablePred IsName := fun fn =>
  inferInstanceAs (Decidable (lex fn.toList = [.ident fn] ∧ fn ≠ "select"))

/-! ## Parentheses -/

variable {I}

theorem Precedence.eq_atom_of_rank_le {p : Precedence} (h : Precedence.atom.rank ≤ p.rank) :
    p = .atom := by
  cases p with
  | atom => rfl
  | _ => exact absurd h (by decide)

theorem Emitted.Reads.grouped {em : Emitted} {v : α} (h : em.Reads I v) :
    (Emitted.atom em.grouped).Reads I v := by
  obtain ⟨t, hwf, hcat, hlex, heval⟩ := h
  unfold Emitted.grouped
  split
  · refine ⟨.paren t, hwf, le_refl _, ?_, heval⟩
    show lex ("(" ++ em.code ++ ")").toList = _
    rw [lex_wrap, hlex]
    rfl
  · -- text that is no looser than an atom is an atom
    rename_i hlt
    have hatom : em.prec = .atom := Precedence.eq_atom_of_rank_le (Nat.not_lt.1 hlt)
    rw [hatom] at hcat
    exact ⟨t, hwf, hcat, hlex, heval⟩

theorem BinOp.rank_lt_cat {op : BinOp} {p : Precedence} (h : p = .atom) : op.prec.rank < p.rank := by
  subst h
  cases op <;> decide

theorem Emitted.Reads.atom {s : String} {v : α} (h : (Emitted.atom s).Reads I v) :
    ∃ t : Term, t.WF ∧ t.cat = .atom ∧ lex s.toList = t.tokens ∧ t.eval I = v := by
  obtain ⟨t, hwf, hcat, hlex, heval⟩ := h
  exact ⟨t, hwf, Precedence.eq_atom_of_rank_le hcat, hlex, heval⟩

/-! ## Chains -/

namespace Wgsl

def BinOp.symbol : BinOp → String
  | .add => "+"
  | .sub => "-"
  | .mul => "*"
  | .div => "/"

theorem lex_spaced_symbol (op : BinOp) :
    lex (' ' :: op.symbol.toList ++ [' ']) = [op.token] := by
  cases op <;> decide

namespace Term

/-- The tree of `l op r` written with no parentheses around `r`: where `r` is a chain of the
operator's own level, reading puts `l op` before its first operand. -/
def graft (l : Term) (op : BinOp) : Term → Term
  | .bin op' rl rr => if op'.prec = op.prec then .bin op' (graft l op rl) rr else .bin op l (.bin op' rl rr)
  | r => .bin op l r

theorem tokens_graft (l : Term) (op : BinOp) :
    ∀ r : Term, (graft l op r).tokens = l.tokens ++ op.token :: r.tokens
  | .bin op' rl rr => by
    rw [graft]
    split
    · rw [tokens, tokens_graft l op rl, tokens]
      simp
    · rfl
  | .number _ | .ident _ | .member _ _ | .index _ _ | .call _ _ | .select _ _ _ _ _ | .paren _
  | .neg _ => rfl

theorem cat_graft (l : Term) (op : BinOp) :
    ∀ r : Term, (graft l op r).cat = op.prec
  | .bin op' rl rr => by
    rw [graft]
    split
    · simp_all [cat]
    · rfl
  | .number _ | .ident _ | .member _ _ | .index _ _ | .call _ _ | .select _ _ _ _ _ | .paren _
  | .neg _ => rfl

theorem wf_graft {l : Term} {op : BinOp} (hl : l.WF) (hlc : op.prec.rank ≤ l.cat.rank) :
    ∀ {r : Term}, r.WF → op.prec.rank ≤ r.cat.rank → (graft l op r).WF
  | .bin op' rl rr, ⟨hrl, hrr, hrlc, hrrc⟩, hrc => by
    rw [graft]
    split
    · rename_i hprec
      refine ⟨wf_graft hl hlc hrl (hprec ▸ hrlc), hrr, ?_, hrrc⟩
      rw [cat_graft, hprec]
    · -- a chain of another level binds strictly tighter
      rename_i hprec
      have hlt : op.prec.rank < op'.prec.rank := by
        have hne : op.prec.rank ≠ op'.prec.rank := fun h => hprec (Precedence.rank_inj h).symm
        simp only [cat] at hrc
        omega
      exact ⟨hl, ⟨hrl, hrr, hrlc, hrrc⟩, hlc, hlt⟩
  | .number _, hr, _ | .ident _, hr, _ | .member _ _, hr, _ | .index _ _, hr, _
  | .call _ _, hr, _ | .select _ _ _ _ _, hr, _ | .paren _, hr, _ =>
    ⟨hl, hr, hlc, by cases op <;> simp [cat, BinOp.prec, Precedence.rank]⟩
  | .neg _, hr, _ => ⟨hl, hr, hlc, by cases op <;> simp [cat, BinOp.prec, Precedence.rank]⟩

/-- Joining `l` to a chain of the operator's own level keeps the value when the operator
associates with the chain's: `+` with `+` and `-`, `*` with `*` and `/`. -/
theorem eval_graft {l : Term} {op : BinOp} (hassoc : op = .add ∨ op = .mul) :
    ∀ r : Term, (graft l op r).eval I = op.apply (l.eval I) (r.eval I)
  | .bin op' rl rr => by
    rw [graft]
    split
    · rename_i hprec
      rw [eval, eval_graft hassoc rl, eval]
      rcases hassoc with rfl | rfl
      · cases op' <;> simp_all [BinOp.prec, BinOp.apply, add_assoc, add_sub_assoc]
      · cases op' <;> simp_all [BinOp.prec, BinOp.apply, mul_assoc, mul_div_assoc]
    · rfl
  | .number _ | .ident _ | .member _ _ | .index _ _ | .call _ _ | .select _ _ _ _ _ | .paren _
  | .neg _ => rfl

end Term

end Wgsl

/-- The text of the operand at position `i` of a chain: parenthesized where it would
otherwise bind too loosely. -/
def chainPart (op : String) (prec : Precedence) (p : Emitted × Nat) : String :=
  if needsParens op prec p.2 p.1 then "(" ++ p.1.code ++ ")" else p.1.code

theorem emitChain_code (op : String) (prec : Precedence) (args : List Emitted) :
    (emitChain op prec args).code =
      " ".intercalate (List.intersperse op (args.zipIdx.map (chainPart op prec))) := rfl

theorem chain_text (o p : String) (ps : List String) :
    (" ".intercalate (List.intersperse o (p :: ps))).toList =
      p.toList ++ ps.flatMap fun q => ' ' :: (o.toList ++ ' ' :: q.toList) := by
  induction ps generalizing p with
  | nil => simp
  | cons q ps ih =>
    have hne : List.intersperse o (q :: ps) ≠ [] := by cases ps <;> simp
    rw [List.intersperse_cons_cons, String.intercalate_cons_cons,
      String.intercalate_cons_of_ne_nil hne]
    simp [ih]

theorem lex_join (s q : List Char) (op : BinOp) :
    lex (s ++ ' ' :: (op.symbol.toList ++ ' ' :: q)) = lex s ++ op.token :: lex q := by
  rw [lex_append_of_separator_head (by simp [IsSeparator]),
    show ' ' :: (op.symbol.toList ++ ' ' :: q) = (' ' :: op.symbol.toList ++ [' ']) ++ q by simp,
    lex_append_of_separator_last (by simp only [List.getLast?_concat]; simp [IsSeparator]),
    lex_spaced_symbol]
  rfl

/-- An operand of a chain of `op`, as the chain writes it at position `i`, reads as a tree
that may stand there: no looser than the chain, and strictly tighter after the first
position unless the operator associates. -/
theorem chainPart_reads {op : BinOp} (i : Nat) {em : Emitted} {v : α} (h : em.Reads I v) :
    ∃ t : Term, t.WF ∧ lex (chainPart op.symbol op.prec (em, i)).toList = t.tokens ∧
      t.eval I = v ∧ op.prec.rank ≤ t.cat.rank ∧
      (0 < i → op.prec.rank < t.cat.rank ∨ op = .add ∨ op = .mul) := by
  obtain ⟨t, hwf, hcat, hlex, heval⟩ := h
  have hlt : op.prec.rank < Precedence.atom.rank := BinOp.rank_lt_cat rfl
  unfold chainPart
  split
  · refine ⟨.paren t, hwf, ?_, heval, hlt.le, fun _ => .inl hlt⟩
    rw [lex_wrap, hlex]
    rfl
  · rename_i hkeep
    simp only [needsParens, Bool.or_eq_true, Bool.and_eq_true, decide_eq_true_eq, beq_iff_eq,
      not_or, not_and] at hkeep
    obtain ⟨hnlt, hsame⟩ := hkeep
    have hle : op.prec.rank ≤ em.prec.rank := Nat.not_lt.1 hnlt
    refine ⟨t, hwf, hlex, heval, hle.trans hcat, fun hi => ?_⟩
    by_cases hp : em.prec = op.prec
    · -- an operand of the chain's own level stays bare only under `+` and `*`
      right
      have hop := hsame ⟨hi, hp⟩
      cases op <;> simp_all [BinOp.symbol]
    · left
      have hne : op.prec.rank ≠ em.prec.rank := fun h => hp (Precedence.rank_inj h).symm
      omega

/-- One more operand joined to a chain: the tree read back has the value of the operator
applied to the chain and the operand. -/
theorem chain_step {op : BinOp} {acc t : Term} (hacc : acc.WF) (hc : op.prec.rank ≤ acc.cat.rank)
    (ht : t.WF) (htc : op.prec.rank ≤ t.cat.rank)
    (hassoc : op.prec.rank < t.cat.rank ∨ op = .add ∨ op = .mul) :
    ∃ T : Term, T.WF ∧ T.cat = op.prec ∧ T.tokens = acc.tokens ++ op.token :: t.tokens ∧
      T.eval I = op.apply (acc.eval I) (t.eval I) := by
  rcases hassoc with hlt | hassoc
  · exact ⟨.bin op acc t, ⟨hacc, ht, hc, hlt⟩, rfl, rfl, rfl⟩
  · exact ⟨Term.graft acc op t, Term.wf_graft hacc hc ht htc, Term.cat_graft acc op t,
      Term.tokens_graft acc op t, Term.eval_graft hassoc t⟩

/-- The operands after the first, each joined by ` op `: reading folds the operator over
their values from the left. -/
theorem chain_tail_reads {op : BinOp} :
    ∀ {ems : List Emitted} {vs : List α} {k : Nat}, 0 < k →
      List.Forall₂ (fun em v => em.Reads I v) ems vs →
      ∀ {s : List Char} {acc : Term}, acc.WF → op.prec.rank ≤ acc.cat.rank → lex s = acc.tokens →
      ∃ T : Term, T.WF ∧ op.prec.rank ≤ T.cat.rank ∧
        lex (s ++ ((ems.zipIdx k).map (chainPart op.symbol op.prec)).flatMap
          fun q => ' ' :: (op.symbol.toList ++ ' ' :: q.toList)) = T.tokens ∧
        T.eval I = vs.foldl op.apply (acc.eval I)
  | [], [], _, _, .nil, _, acc, hacc, hc, hs => ⟨acc, hacc, hc, by simpa using hs, rfl⟩
  | em :: ems, v :: vs, k, hk, .cons h hs, s, acc, hacc, hc, hlex => by
    obtain ⟨t, ht, htlex, hteval, htc, hassoc⟩ := chainPart_reads k h
    obtain ⟨T, hT, hTc, hTtok, hTeval⟩ := @chain_step α _ _ I op acc t hacc hc ht htc (hassoc hk)
    have hstep : lex (s ++ ' ' :: (op.symbol.toList ++ ' ' :: (chainPart op.symbol op.prec (em, k)).toList)) =
        T.tokens := by
      rw [lex_join, hlex, htlex, hTtok]
    obtain ⟨U, hU, hUc, hUlex, hUeval⟩ :=
      chain_tail_reads (Nat.succ_pos k) hs hT (by rw [hTc]) hstep
    refine ⟨U, hU, hUc, ?_, ?_⟩
    · rw [List.zipIdx_cons, List.map_cons, List.flatMap_cons, ← List.append_assoc]
      exact hUlex
    · rw [hUeval, hTeval, hteval, List.foldl_cons]

/-- An operator chain over operands that read as their values reads as the operator folded
over them from the left. -/
theorem emitChain_reads {op : BinOp} {ems : List Emitted} {v : α} {vs : List α}
    (h : List.Forall₂ (fun em v => em.Reads I v) ems (v :: vs)) :
    (emitChain op.symbol op.prec ems).Reads I (vs.foldl op.apply v) := by
  obtain ⟨em, ems, rfl⟩ : ∃ em ems', ems = em :: ems' := by
    cases h with
    | cons _ _ => exact ⟨_, _, rfl⟩
  obtain ⟨h0, hs⟩ := List.forall₂_cons.1 h
  obtain ⟨t, ht, htlex, hteval, htc, -⟩ := chainPart_reads 0 h0
  obtain ⟨T, hT, hTc, hTlex, hTeval⟩ := chain_tail_reads Nat.one_pos hs ht htc htlex
  refine ⟨T, hT, hTc, ?_, by rw [hTeval, hteval]⟩
  rw [emitChain_code, List.zipIdx_cons, List.map_cons, chain_text]
  exact hTlex

/-! ## Sums and products -/

omit [LinearOrder α] in
theorem foldl_add_eq_sum (v : α) (vs : List α) : vs.foldl BinOp.add.apply v = (v :: vs).sum := by
  show vs.foldl (· + ·) v = _
  rw [List.sum_cons, List.sum_eq_foldl, ← @List.foldl_assoc α (· + ·) _ vs v 0, add_zero]

omit [LinearOrder α] in
theorem foldl_mul_eq_prod (v : α) (vs : List α) : vs.foldl BinOp.mul.apply v = (v :: vs).prod := by
  show vs.foldl (· * ·) v = _
  rw [List.prod_cons, List.prod_eq_foldl, ← @List.foldl_assoc α (· * ·) _ vs v 1, mul_one]

/-! ## A leading minus -/

/-- A minus sign before its operand reads as the negation; the operand is parenthesized,
and parenthesized again where it starts with a minus sign itself. -/
theorem unary_reads {arity : Arity} {em : Emitted} {v : α} (h : em.Reads I v) :
    (Emit.apply (.unary "-") arity [em]).Reads I (-v) := by
  obtain ⟨A, hA, hAat, hAlex, hAv⟩ := h.grouped.atom
  show Emitted.Reads I ⟨if em.grouped.startsWith "-" then "-" ++ "(" ++ em.grouped ++ ")"
    else "-" ++ em.grouped, .unary⟩ (-v)
  split
  · -- the operand starts with a minus sign itself
    refine ⟨.neg (.paren A), ⟨hA, by simp [Term.cat, Precedence.rank]⟩, le_refl _, ?_,
      by rw [Term.eval, Term.eval, hAv]⟩
    have htext : ("-" ++ "(" ++ em.grouped ++ ")").toList = '-' :: ("(" ++ em.grouped ++ ")").toList := by
      simp
    rw [htext, lex_minus_cons (by simp), lex_wrap, hAlex]
    rfl
  · rename_i hstart
    have hhead : em.grouped.toList.head? ≠ some '-' := by
      intro h
      obtain ⟨t, ht⟩ := List.head?_eq_some_iff.1 h
      exact hstart (String.startsWith_string_iff.2 (by rw [ht]; exact ⟨t, rfl⟩))
    refine ⟨.neg A, ⟨hA, by simp [hAat, Precedence.rank]⟩, le_refl _, ?_, by rw [Term.eval, hAv]⟩
    rw [String.toList_append, show "-".toList = ['-'] from rfl, List.singleton_append,
      lex_minus_cons hhead, hAlex]
    rfl

/-! ## Calls -/

theorem intercalate_text (sep p : String) (ps : List String) :
    (sep.intercalate (p :: ps)).toList = p.toList ++ ps.flatMap fun q => sep.toList ++ q.toList := by
  induction ps generalizing p with
  | nil => simp
  | cons q ps ih =>
    rw [String.intercalate_cons_cons]
    simp [ih]

theorem lex_call {fn : String} (hfn : IsName fn) (x : String) :
    lex (fn ++ "(" ++ x ++ ")").toList = .ident fn :: .lparen :: lex x.toList ++ [.rparen] := by
  have htext : (fn ++ "(" ++ x ++ ")").toList = fn.toList ++ ('(' :: x.toList ++ [')']) := by simp
  rw [htext, lex_append_of_separator_head (by simp [IsSeparator]), hfn.1, lex_paren]
  rfl

theorem lex_comma (s : List Char) : lex (',' :: ' ' :: s) = .comma :: lex s := by
  rw [show ',' :: ' ' :: s = [',', ' '] ++ s from rfl,
    lex_append_of_separator_last (by simp [IsSeparator])]
  rfl

theorem moreArgs_reads {ems : List Emitted} {vs : List α}
    (h : List.Forall₂ (fun em v => em.Reads I v) ems vs) :
    ∃ ts : List Term, Term.WFAll ts ∧
      lex ((ems.map Emitted.code).flatMap fun c => ',' :: ' ' :: c.toList) = Term.moreArgTokens ts ∧
      Term.evalAll I ts = vs := by
  induction h with
  | nil => exact ⟨[], trivial, rfl, rfl⟩
  | @cons em v ems vs h _ ih =>
    obtain ⟨t, ht, -, htlex, htv⟩ := h
    obtain ⟨ts, hts, htslex, htsv⟩ := ih
    refine ⟨t :: ts, ⟨ht, hts⟩, ?_, by rw [Term.evalAll, htv, htsv]⟩
    -- the next operand, if any, starts with a comma
    have hnext : ∀ c ∈ ((ems.map Emitted.code).flatMap fun c => ',' :: ' ' :: c.toList).head?,
        IsSeparator c := by
      cases ems <;> simp [IsSeparator]
    rw [List.map_cons, List.flatMap_cons, lex_append_of_separator_head hnext, lex_comma, htlex,
      htslex, Term.moreArgTokens]

theorem args_reads {ems : List Emitted} {vs : List α}
    (h : List.Forall₂ (fun em v => em.Reads I v) ems vs) :
    ∃ ts : List Term, Term.WFAll ts ∧
      lex (", ".intercalate (ems.map Emitted.code)).toList = Term.argTokens ts ∧
      Term.evalAll I ts = vs := by
  cases h with
  | nil => exact ⟨[], trivial, rfl, rfl⟩
  | @cons em v ems vs h hs =>
    obtain ⟨t, ht, -, htlex, htv⟩ := h
    obtain ⟨ts, hts, htslex, htsv⟩ := moreArgs_reads hs
    refine ⟨t :: ts, ⟨ht, hts⟩, ?_, by rw [Term.evalAll, htv, htsv]⟩
    have hnext : ∀ c ∈ ((ems.map Emitted.code).flatMap fun q => ", ".toList ++ q.toList).head?,
        IsSeparator c := by
      cases ems <;> simp [IsSeparator]
    rw [List.map_cons, intercalate_text, lex_append_of_separator_head hnext, htlex, Term.argTokens,
      ← htslex]
    rfl

/-- A call of a builtin reads as the builtin applied to the values of its operands. -/
theorem call_reads {fn : String} (hfn : IsName fn) {arity : Arity} {ems : List Emitted}
    {vs : List α} (h : List.Forall₂ (fun em v => em.Reads I v) ems vs) :
    (Emit.apply (.call fn) arity ems).Reads I (I.call fn vs) := by
  obtain ⟨ts, hts, hlex, hv⟩ := args_reads h
  refine ⟨.call fn ts, ⟨hfn.2, hts⟩, le_refl _, ?_, by rw [Term.eval, hv]⟩
  simp only [Emit.apply, Emitted.atom]
  rw [lex_call hfn, hlex]
  rfl

/-! ## Folded calls -/

theorem fold_step {fn : String} (hfn : IsName fn) {s : String} {A : Term} (hA : A.WF)
    (hs : lex s.toList = A.tokens) {em : Emitted} {v : α} (h : em.Reads I v) :
    ∃ T : Term, T.WF ∧ T.cat = .atom ∧
      lex (fn ++ "(" ++ s ++ ", " ++ em.code ++ ")").toList = T.tokens ∧
      T.eval I = I.call fn [A.eval I, v] := by
  have hs' : (⟨s, .additive⟩ : Emitted).Reads I (A.eval I) := ⟨A, hA, Nat.zero_le _, hs, rfl⟩
  obtain ⟨T, hT, hTc, hTlex, hTv⟩ :=
    @call_reads α _ _ I fn hfn (.exact 2) _ _ (.cons hs' (.cons h .nil))
  refine ⟨T, hT, Precedence.eq_atom_of_rank_le hTc, ?_, hTv⟩
  simpa [Emit.apply, Emitted.atom, String.append_assoc] using hTlex

theorem fold_tail_reads {fn : String} (hfn : IsName fn) :
    ∀ {ems : List Emitted} {vs : List α}, List.Forall₂ (fun em v => em.Reads I v) ems vs →
    ∀ {s : String} {A : Term}, A.WF → A.cat = .atom → lex s.toList = A.tokens →
    ∃ T : Term, T.WF ∧ T.cat = .atom ∧
      lex ((ems.map Emitted.code).foldl
        (fun acc next => fn ++ "(" ++ acc ++ ", " ++ next ++ ")") s).toList = T.tokens ∧
      T.eval I = vs.foldl (fun acc x => I.call fn [acc, x]) (A.eval I)
  | [], [], .nil, _, A, hA, hc, hs => ⟨A, hA, hc, hs, rfl⟩
  | em :: ems, v :: vs, .cons h hs, s, A, hA, _, hlex => by
    obtain ⟨B, hB, hBc, hBlex, hBv⟩ := fold_step hfn hA hlex h
    obtain ⟨T, hT, hTc, hTlex, hTv⟩ := fold_tail_reads hfn hs hB hBc hBlex
    exact ⟨T, hT, hTc, hTlex, by rw [hTv, hBv, List.foldl_cons]⟩

/-- A binary builtin folded over two operands or more reads as the same fold of their
values. -/
theorem fold_reads {fn : String} (hfn : IsName fn) {arity : Arity} {em e : Emitted}
    {ems : List Emitted} {v w : α} {vs : List α}
    (h : List.Forall₂ (fun em v => em.Reads I v) (em :: e :: ems) (v :: w :: vs)) :
    (Emit.apply (.fold fn) arity (em :: e :: ems)).Reads I
      ((w :: vs).foldl (fun acc x => I.call fn [acc, x]) v) := by
  obtain ⟨⟨A, hA, -, hAlex, hAv⟩, he, hs⟩ : em.Reads I v ∧ e.Reads I w ∧ _ := by
    simpa using h
  obtain ⟨B, hB, hBc, hBlex, hBv⟩ := fold_step hfn hA hAlex he
  obtain ⟨T, hT, hTc, hTlex, hTv⟩ := fold_tail_reads hfn hs hB hBc hBlex
  refine ⟨T, hT, by simp [Emit.apply, Emitted.atom, hTc], ?_,
    by rw [hTv, hBv, hAv, List.foldl_cons]⟩
  simpa [Emit.apply, Emitted.atom] using hTlex

/-! ## Numerals -/

/-- Digits followed by `.0`, the way the compiler writes a whole constant: a numeral worth
the number the digits spell. -/
theorem numeralOf_point_zero {w : List Char} (hw : ∀ c ∈ w, c.isDigit) (hne : w ≠ []) :
    NumeralOf (w ++ ['.', '0']) (Nat.ofDigitChars 10 w 0) := by
  have hzero : ∀ c ∈ ['0'], c.isDigit := by simp
  have h := numeralOf_point hw hne hzero
  refine ⟨h.lex, h.valid, h.value.trans ?_⟩
  rw [Nat.ofDigitChars_append]
  simp [Nat.ofDigitChars_cons, Nat.ofDigitChars_nil]

theorem numeralOf_zero : NumeralOf ['0', '.', '0'] 0 := by
  have h := numeralOf_point_zero (show ∀ c ∈ ['0'], c.isDigit by simp) (by simp)
  simpa [Nat.ofDigitChars_cons, Nat.ofDigitChars_nil] using h

theorem numeralOf_one : NumeralOf ['1', '.', '0'] 1 := by
  have h := numeralOf_point_zero (show ∀ c ∈ ['1'], c.isDigit by simp) (by simp)
  simpa [Nat.ofDigitChars_cons, Nat.ofDigitChars_nil] using h

theorem numeralOf_ten : NumeralOf ['1', '0', '.', '0'] 10 := by
  have h := numeralOf_point_zero (show ∀ c ∈ ['1', '0'], c.isDigit by simp) (by simp)
  simpa [Nat.ofDigitChars_cons, Nat.ofDigitChars_nil] using h

/-! ## Comparisons -/

theorem lex_spaced_compare (op : CompareOp) :
    lex (' ' :: op.symbol.toList ++ [' ']) = [.compare op] := by
  cases op <;> decide

/-- A comparison reads as `select(0.0, 1.0, ...)` of the relation between the two operands. -/
theorem compare_reads {arity : Arity} {op : CompareOp} {el er : Emitted} {a b : α}
    (hl : el.Reads I a) (hr : er.Reads I b) :
    (Emit.apply (.compare op) arity [el, er]).Reads I (I.select 0 1 (op.holds a b)) := by
  obtain ⟨L, hL, -, hLlex, hLv⟩ := hl
  obtain ⟨R, hR, -, hRlex, hRv⟩ := hr
  refine ⟨.select (.number "0.0".toList) (.number "1.0".toList) op L R,
    ⟨numeralOf_zero.valid, numeralOf_one.valid, hL, hR⟩, le_refl _, ?_, ?_⟩
  · have htext : ("select(0.0, 1.0, (" ++ el.code ++ " " ++ op.symbol ++ " " ++ er.code ++ "))").toList =
        "select(0.0, 1.0, (".toList ++
          (el.code.toList ++ ((' ' :: op.symbol.toList ++ [' ']) ++ (er.code.toList ++ [')', ')']))) := by
      simp
    simp only [Emit.apply, Emitted.atom, List.map_cons, List.map_nil, List.head?_cons,
      Option.getD_some, List.drop_succ_cons, List.drop_zero]
    rw [htext, lex_append_of_separator_last (by simp [IsSeparator]),
      lex_append_of_separator_head (by simp [IsSeparator]),
      lex_append_of_separator_last (by simp only [List.getLast?_concat]; simp [IsSeparator]),
      lex_spaced_compare, lex_append_of_separator_head (by simp [IsSeparator]), hLlex, hRlex]
    have hopen : lex "select(0.0, 1.0, (".toList =
        [.ident "select", .lparen, .number "0.0".toList, .comma, .number "1.0".toList, .comma,
          .lparen] := by decide
    have hclose : lex [')', ')'] = [.rparen, .rparen] := by decide
    rw [hopen, hclose]
    simp [Term.tokens]
  · simp [Term.eval, numeralOf_zero.value, numeralOf_one.value, hLv, hRv]

end FormulaShader
