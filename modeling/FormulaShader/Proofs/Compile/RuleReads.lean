import Mathlib
import FormulaShader.Proofs.Compile.TextReads
import FormulaShader.Proofs.Compile.LexicalSafety

/-!
# What each rule of the library writes

The templates of the library read back, and the agreement of the library with the meaning of
its names. Wherever a text piece of a template meets an operand, the piece begins or ends
with a separator, so the rendered text lexes piece by piece (`lex_render`); each template then
reads as the arithmetic it stands for.

`Meaning.writes` says which rules write an operation: the operator chains for the field
operations, a leading minus for negation, the templates below for the operations built from
builtins, a call, a fold or a `select` for the rest. Every row of the library writes what each
of its names means (`builtins_write`, checked over the whole table), and a rule that writes
an operation emits, from operands that read as their values and as many as its arity accepts,
text that reads as the operation's value (`Rule.apply_reads`).

Results:
* `lex_render`: the tokens of a spaced template.
* `Forms`: the templates that stand for operations.
* `Meaning.writes`, `builtins_write`, `lookup_writes`.
* `Emit.apply_reads_of_one`, `Emit.apply_reads_of_two`: a rule of fixed arity reads as its
  text over that many operands.
* `Rule.apply_reads`.
-/

namespace FormulaShader

open Wgsl

/-! ## Rendering -/

def Piece.fill (args : List String) : Piece → String
  | .text s => s
  | .slot i => Pieces.operand args i

def Piece.opens : Piece → Bool
  | .text s => s.toList.head?.any fun c => decide (IsSeparator c)
  | .slot _ => false

def Piece.closes : Piece → Bool
  | .text s => s.toList.getLast?.any fun c => decide (IsSeparator c)
  | .slot _ => false

def Pieces.spaced : Pieces → Bool
  | p :: q :: ps => (p.closes || q.opens) && Pieces.spaced (q :: ps)
  | _ => true

theorem Pieces.render_cons (p : Piece) (ps : Pieces) (args : List String) :
    Pieces.render (p :: ps) args = p.fill args ++ Pieces.render ps args := by
  cases p <;> simp [Pieces.render, Piece.fill]

theorem Piece.closes_last {p : Piece} (h : p.closes = true) (args : List String) :
    ∀ c ∈ (p.fill args).toList.getLast?, IsSeparator c := by
  cases p with
  | text s =>
    intro c hc
    simp only [Piece.closes, Piece.fill] at h hc
    rw [Option.mem_def] at hc
    simpa [hc] using h
  | slot _ => simp [Piece.closes] at h

theorem Piece.opens_head {p : Piece} (h : p.opens = true) (args : List String) (rest : List Char) :
    ∀ c ∈ ((p.fill args).toList ++ rest).head?, IsSeparator c := by
  cases p with
  | text s =>
    cases hs : s.toList with
    | nil => simp [Piece.opens, hs] at h
    | cons c cs =>
      intro x hx
      simp only [Piece.fill, hs, List.cons_append, List.head?_cons, Option.mem_def,
        Option.some.injEq] at hx
      subst hx
      simpa [Piece.opens, hs] using h
  | slot _ => simp [Piece.opens] at h

/-- A spaced template lexes piece by piece. -/
theorem lex_render : ∀ {ps : Pieces}, ps.spaced = true → ∀ args : List String,
    lex (ps.render args).toList = ps.flatMap fun p => lex (p.fill args).toList
  | [], _, _ => rfl
  | [p], _, args => by
    rw [Pieces.render_cons]
    simp [Pieces.render]
  | p :: q :: ps, h, args => by
    simp only [Pieces.spaced, Bool.and_eq_true, Bool.or_eq_true] at h
    obtain ⟨hjoin, hrest⟩ := h
    rw [Pieces.render_cons, String.toList_append, List.flatMap_cons, ← lex_render hrest args]
    rcases hjoin with hp | hq
    · exact lex_append_of_separator_last (Piece.closes_last hp args)
    · rw [Pieces.render_cons, String.toList_append]
      exact lex_append_of_separator_head (Piece.opens_head hq args _)

/-! ## The templates -/

namespace Forms

def square : Pieces := [.text "(", .slot 0, .text " * ", .slot 0, .text ")"]

def root : Pieces := [.text "pow(", .slot 0, .text ", 1.0 / ", .slot 1, .text ")"]

def logTen : Pieces := [.text "(log(", .slot 0, .text ") / log(10.0))"]

def logBase : Pieces := [.text "(log(", .slot 0, .text ") / log(", .slot 1, .text "))"]

def reciprocal (fn : String) : Pieces := [.text ("(1.0 / " ++ fn ++ "("), .slot 0, .text "))"]

def floorMod : Pieces :=
  [.text "(", .slot 0, .text " - ", .slot 1, .text " * floor(", .slot 0, .text " / ", .slot 1,
    .text "))"]

end Forms

section Templates

variable {α : Type} [Field α] [LinearOrder α] {I : Interp α} {el er : Emitted} {a b : α}

theorem same_reads (hl : el.Reads I a) :
    (Emitted.atom (Pieces.render [.slot 0] [el.grouped])).Reads I a := by
  obtain ⟨A, hA, hAc, hAlex, hAv⟩ := hl.grouped.atom
  refine ⟨A, hA, by rw [hAc]; exact le_refl _, ?_, hAv⟩
  simpa [Emitted.atom, Pieces.render_cons, Piece.fill, Pieces.operand, Pieces.render] using hAlex

theorem square_reads (hl : el.Reads I a) :
    (Emitted.atom (Forms.square.render [el.grouped])).Reads I (a * a) := by
  obtain ⟨A, hA, hAc, hAlex, hAv⟩ := hl.grouped.atom
  refine ⟨.paren (.bin .mul A A), ⟨hA, hA, (BinOp.rank_lt_cat hAc).le, BinOp.rank_lt_cat hAc⟩,
    le_refl _, ?_, by simp [Term.eval, BinOp.apply, hAv]⟩
  show lex (Forms.square.render _).toList = _
  rw [lex_render (by decide)]
  simp only [Forms.square, List.flatMap_cons, List.flatMap_nil, Piece.fill, Pieces.operand,
    List.getElem?_cons_zero, Option.getD_some, hAlex]
  rw [show lex "(".toList = [.lparen] by decide, show lex " * ".toList = [.star] by decide,
    show lex ")".toList = [.rparen] by decide]
  simp [Term.tokens, BinOp.token]

theorem root_reads (hl : el.Reads I a) (hr : er.Reads I b) :
    (Emitted.atom (Forms.root.render [el.grouped, er.grouped])).Reads I
      (I.call "pow" [a, 1 / b]) := by
  obtain ⟨A, hA, hAc, hAlex, hAv⟩ := hl.grouped.atom
  obtain ⟨B, hB, hBc, hBlex, hBv⟩ := hr.grouped.atom
  refine ⟨.call "pow" [A, .bin .div (.number "1.0".toList) B],
    ⟨by decide, hA, ⟨numeralOf_one.valid, hB, (BinOp.rank_lt_cat rfl).le, BinOp.rank_lt_cat hBc⟩,
      trivial⟩, le_refl _, ?_, ?_⟩
  · show lex (Forms.root.render _).toList = _
    rw [lex_render (by decide)]
    simp only [Forms.root, List.flatMap_cons, List.flatMap_nil, Piece.fill, Pieces.operand,
      List.getElem?_cons_zero, List.getElem?_cons_succ, Option.getD_some, hAlex, hBlex]
    rw [show lex "pow(".toList = [.ident "pow", .lparen] by decide,
      show lex ", 1.0 / ".toList = [.comma, .number "1.0".toList, .slash] by decide,
      show lex ")".toList = [.rparen] by decide]
    simp [Term.tokens, Term.argTokens, Term.moreArgTokens, BinOp.token]
  · simp [Term.eval, Term.evalAll, BinOp.apply, numeralOf_one.value, hAv, hBv]

theorem logTen_reads (hl : el.Reads I a) :
    (Emitted.atom (Forms.logTen.render [el.grouped])).Reads I
      (I.call "log" [a] / I.call "log" [10]) := by
  obtain ⟨A, hA, hAc, hAlex, hAv⟩ := hl.grouped.atom
  refine ⟨.paren (.bin .div (.call "log" [A]) (.call "log" [.number "10.0".toList])),
    ⟨⟨by decide, hA, trivial⟩, ⟨by decide, numeralOf_ten.valid, trivial⟩,
      (BinOp.rank_lt_cat rfl).le, BinOp.rank_lt_cat rfl⟩, le_refl _, ?_, ?_⟩
  · show lex (Forms.logTen.render _).toList = _
    rw [lex_render (by decide)]
    simp only [Forms.logTen, List.flatMap_cons, List.flatMap_nil, Piece.fill, Pieces.operand,
      List.getElem?_cons_zero, Option.getD_some, hAlex]
    rw [show lex "(log(".toList = [.lparen, .ident "log", .lparen] by decide,
      show lex ") / log(10.0))".toList =
        [.rparen, .slash, .ident "log", .lparen, .number "10.0".toList, .rparen, .rparen] by decide]
    simp [Term.tokens, Term.argTokens, Term.moreArgTokens, BinOp.token]
  · simp [Term.eval, Term.evalAll, BinOp.apply, numeralOf_ten.value, hAv]

theorem logBase_reads (hl : el.Reads I a) (hr : er.Reads I b) :
    (Emitted.atom (Forms.logBase.render [el.grouped, er.grouped])).Reads I
      (I.call "log" [a] / I.call "log" [b]) := by
  obtain ⟨A, hA, hAc, hAlex, hAv⟩ := hl.grouped.atom
  obtain ⟨B, hB, hBc, hBlex, hBv⟩ := hr.grouped.atom
  refine ⟨.paren (.bin .div (.call "log" [A]) (.call "log" [B])),
    ⟨⟨by decide, hA, trivial⟩, ⟨by decide, hB, trivial⟩, (BinOp.rank_lt_cat rfl).le,
      BinOp.rank_lt_cat rfl⟩, le_refl _, ?_, ?_⟩
  · show lex (Forms.logBase.render _).toList = _
    rw [lex_render (by decide)]
    simp only [Forms.logBase, List.flatMap_cons, List.flatMap_nil, Piece.fill, Pieces.operand,
      List.getElem?_cons_zero, List.getElem?_cons_succ, Option.getD_some, hAlex, hBlex]
    rw [show lex "(log(".toList = [.lparen, .ident "log", .lparen] by decide,
      show lex ") / log(".toList = [.rparen, .slash, .ident "log", .lparen] by decide,
      show lex "))".toList = [.rparen, .rparen] by decide]
    simp [Term.tokens, Term.argTokens, Term.moreArgTokens, BinOp.token]
  · simp [Term.eval, Term.evalAll, BinOp.apply, hAv, hBv]

theorem lex_reciprocal_text {fn : String} (hfn : IsName fn) :
    lex ("(1.0 / " ++ fn ++ "(").toList =
      [.lparen, .number "1.0".toList, .slash, .ident fn, .lparen] := by
  have hopen : lex "(1.0 / ".toList = [.lparen, .number "1.0".toList, .slash] := by decide
  have hlast : ∀ c ∈ "(1.0 / ".toList.getLast?, IsSeparator c := by simp [IsSeparator]
  have htext : ("(1.0 / " ++ fn ++ "(").toList = "(1.0 / ".toList ++ (fn.toList ++ ['(']) := by
    simp
  rw [htext, lex_append_of_separator_last hlast,
    lex_append_of_separator_head (by simp [IsSeparator]), hfn.1, hopen]
  rfl

theorem reciprocal_reads {fn : String} (hfn : IsName fn) (hl : el.Reads I a) :
    (Emitted.atom ((Forms.reciprocal fn).render [el.grouped])).Reads I (1 / I.call fn [a]) := by
  obtain ⟨A, hA, hAc, hAlex, hAv⟩ := hl.grouped.atom
  have hclose : (Piece.text ("(1.0 / " ++ fn ++ "(")).closes = true := by
    simp only [Piece.closes, String.toList_append]
    rw [List.getLast?_append_of_ne_nil _ (by simp)]
    decide
  have hspaced : (Forms.reciprocal fn).spaced = true := by
    simp [Forms.reciprocal, Pieces.spaced, hclose, Piece.opens, IsSeparator]
  refine ⟨.paren (.bin .div (.number "1.0".toList) (.call fn [A])),
    ⟨numeralOf_one.valid, ⟨hfn.2, hA, trivial⟩, (BinOp.rank_lt_cat rfl).le, BinOp.rank_lt_cat rfl⟩,
    le_refl _, ?_, ?_⟩
  · show lex ((Forms.reciprocal fn).render _).toList = _
    rw [lex_render hspaced]
    simp only [Forms.reciprocal, List.flatMap_cons, List.flatMap_nil, Piece.fill, Pieces.operand,
      List.getElem?_cons_zero, Option.getD_some, hAlex, lex_reciprocal_text hfn]
    rw [show lex "))".toList = [.rparen, .rparen] by decide]
    simp [Term.tokens, Term.argTokens, Term.moreArgTokens, BinOp.token]
  · simp [Term.eval, Term.evalAll, BinOp.apply, numeralOf_one.value, hAv]

theorem floorMod_reads (hl : el.Reads I a) (hr : er.Reads I b) :
    (Emitted.atom (Forms.floorMod.render [el.grouped, er.grouped])).Reads I
      (a - b * I.call "floor" [a / b]) := by
  obtain ⟨A, hA, hAc, hAlex, hAv⟩ := hl.grouped.atom
  obtain ⟨B, hB, hBc, hBlex, hBv⟩ := hr.grouped.atom
  have hquot : (Term.bin .div A B).WF :=
    ⟨hA, hB, (BinOp.rank_lt_cat hAc).le, BinOp.rank_lt_cat hBc⟩
  have hprod : (Term.bin .mul B (.call "floor" [.bin .div A B])).WF :=
    ⟨hB, ⟨by decide, hquot, trivial⟩, (BinOp.rank_lt_cat hBc).le, BinOp.rank_lt_cat rfl⟩
  refine ⟨.paren (.bin .sub A (.bin .mul B (.call "floor" [.bin .div A B]))),
    ⟨hA, hprod, (BinOp.rank_lt_cat hAc).le, by simp [Term.cat, BinOp.prec, Precedence.rank]⟩,
    le_refl _, ?_, ?_⟩
  · show lex (Forms.floorMod.render _).toList = _
    rw [lex_render (by decide)]
    simp only [Forms.floorMod, List.flatMap_cons, List.flatMap_nil, Piece.fill, Pieces.operand,
      List.getElem?_cons_zero, List.getElem?_cons_succ, Option.getD_some, hAlex, hBlex]
    rw [show lex "(".toList = [.lparen] by decide, show lex " - ".toList = [.minus] by decide,
      show lex " * floor(".toList = [.star, .ident "floor", .lparen] by decide,
      show lex " / ".toList = [.slash] by decide, show lex "))".toList = [.rparen, .rparen] by decide]
    simp [Term.tokens, Term.argTokens, Term.moreArgTokens, BinOp.token]
  · simp [Term.eval, Term.evalAll, BinOp.apply, hAv, hBv]

/-- The override the implicit plot mode puts in place of `Equal`. -/
theorem difference_reads (hl : el.Reads I a) (hr : er.Reads I b) :
    (Emitted.atom (Template.difference.render [el.grouped, er.grouped])).Reads I (a - b) := by
  obtain ⟨A, hA, hAc, hAlex, hAv⟩ := hl.grouped.atom
  obtain ⟨B, hB, hBc, hBlex, hBv⟩ := hr.grouped.atom
  refine ⟨.paren (.bin .sub A B), ⟨hA, hB, (BinOp.rank_lt_cat hAc).le, BinOp.rank_lt_cat hBc⟩,
    le_refl _, ?_, by simp [Term.eval, BinOp.apply, hAv, hBv]⟩
  show lex (Template.difference.pieces.render _).toList = _
  rw [lex_render (by decide)]
  simp only [Template.difference, Template.ofPieces, List.flatMap_cons, List.flatMap_nil,
    Piece.fill, Pieces.operand, List.getElem?_cons_zero, List.getElem?_cons_succ, Option.getD_some,
    hAlex, hBlex]
  rw [show lex "(".toList = [.lparen] by decide, show lex " - ".toList = [.minus] by decide,
    show lex ")".toList = [.rparen] by decide]
  simp [Term.tokens, BinOp.token]

end Templates

/-! ## The library -/

/-- Whether a rule writes an operation: its emission, at every operand count its arity
accepts, is text that reads as the operation's value. -/
def Meaning.writes (m : Meaning) (r : Rule) : Bool :=
  match m with
  | .sum => r.emit == .chain "+" .additive && 0 < r.arity.min
  | .difference => r == ⟨.exact 2, .chain "-" .additive⟩
  | .product => r.emit == .chain "*" .multiplicative && 0 < r.arity.min
  | .quotient => r == ⟨.exact 2, .chain "/" .multiplicative⟩
  | .negation => r == ⟨.exact 1, .unary "-"⟩
  | .same => r == ⟨.exact 1, .template [.slot 0]⟩
  | .square => r == ⟨.exact 1, .template Forms.square⟩
  | .root => r == ⟨.exact 2, .template Forms.root⟩
  | .log => r == ⟨.between 1 2, .overloaded [Forms.logTen, Forms.logBase]⟩
  | .logTen => r == ⟨.exact 1, .template Forms.logTen⟩
  | .reciprocal fn => decide (IsName fn) && r == ⟨.exact 1, .template (Forms.reciprocal fn)⟩
  | .floorMod => r == ⟨.exact 2, .template Forms.floorMod⟩
  | .fold fn => decide (IsName fn) && r.emit == .fold fn && 1 < r.arity.min
  | .compare op => r == ⟨.exact 2, .compare op⟩
  | .builtin fn => decide (IsName fn) && r.emit == .call fn
  | .unknown => false

/-- Every row of the library writes what each of its names means. -/
theorem builtins_write :
    ∀ row ∈ Library.builtins, ∀ name ∈ row.names, (Meaning.ofName name).writes row.rule = true := by
  decide

theorem lookup_writes {name : String} {r : Rule} (h : lookup name = some r) :
    (Meaning.ofName name).writes r = true := by
  simp only [lookup, Option.map_eq_some_iff] at h
  obtain ⟨row, hfound, rfl⟩ := h
  exact builtins_write row (List.mem_of_find?_eq_some hfound) name
    (by simpa using List.find?_some hfound)

section Operands

variable {β γ : Type} {R : β → γ → Prop} {l : List β} {u : List γ}

theorem forall₂_of_length_one (h : List.Forall₂ R l u) (hn : l.length = 1) :
    ∃ x y, l = [x] ∧ u = [y] ∧ R x y := by
  cases h with
  | nil => simp at hn
  | cons hxy hs =>
    cases hs with
    | nil => exact ⟨_, _, rfl, rfl, hxy⟩
    | cons _ _ => simp at hn

theorem forall₂_of_length_two (h : List.Forall₂ R l u) (hn : l.length = 2) :
    ∃ x x' y y', l = [x, x'] ∧ u = [y, y'] ∧ R x y ∧ R x' y' := by
  cases h with
  | nil => simp at hn
  | cons hxy hs =>
    obtain ⟨x', y', rfl, rfl, hxy'⟩ := forall₂_of_length_one hs (by simpa using hn)
    exact ⟨_, _, _, _, rfl, rfl, hxy, hxy'⟩

end Operands

variable {α : Type} [Field α] [LinearOrder α] {I : Interp α}

/-- An emission of exactly one operand reads as an operation when its text over any single
operand that reads as its value does. -/
theorem Emit.apply_reads_of_one {emit : Emit} {m : Meaning} {ems : List Emitted} {vs : List α}
    (hone : ∀ {em : Emitted} {a : α}, em.Reads I a →
      (emit.apply (.exact 1) [em]).Reads I (m.apply I [a]))
    (hn : (Arity.exact 1).accepts ems.length = true)
    (h : List.Forall₂ (fun em v => em.Reads I v) ems vs) :
    (emit.apply (.exact 1) ems).Reads I (m.apply I vs) := by
  obtain ⟨em, a, rfl, rfl, hl⟩ := forall₂_of_length_one h (by simpa [Arity.accepts] using hn)
  exact hone hl

/-- An emission of exactly two operands reads as an operation when its text over any two
operands that read as their values does. -/
theorem Emit.apply_reads_of_two {emit : Emit} {m : Meaning} {ems : List Emitted} {vs : List α}
    (htwo : ∀ {el er : Emitted} {a b : α}, el.Reads I a → er.Reads I b →
      (emit.apply (.exact 2) [el, er]).Reads I (m.apply I [a, b]))
    (hn : (Arity.exact 2).accepts ems.length = true)
    (h : List.Forall₂ (fun em v => em.Reads I v) ems vs) :
    (emit.apply (.exact 2) ems).Reads I (m.apply I vs) := by
  obtain ⟨el, er, a, b, rfl, rfl, hl, hr⟩ :=
    forall₂_of_length_two h (by simpa [Arity.accepts] using hn)
  exact htwo hl hr

/-- A rule that writes an operation, over operands that read as their values and as many as
its arity accepts, emits text that reads as the operation's value. -/
theorem Rule.apply_reads {m : Meaning} {r : Rule} (hw : m.writes r = true) {ems : List Emitted}
    {vs : List α} (hn : r.arity.accepts ems.length = true)
    (h : List.Forall₂ (fun em v => em.Reads I v) ems vs) :
    (r.emit.apply r.arity ems).Reads I (m.apply I vs) := by
  -- an operation of fixed arity has one rule, which `writes` names; the others constrain
  -- the emission and the least operand count
  cases m with
  | sum =>
    obtain ⟨arity, emit⟩ := r
    obtain ⟨rfl, hmin⟩ : emit = .chain "+" .additive ∧ 0 < arity.min := by
      simpa [Meaning.writes] using hw
    cases h with
    | nil =>
      have hzero := Arity.min_le_of_accepts hn
      simp only [List.length_nil] at hzero
      omega
    | cons hx hs =>
      rw [Meaning.apply, ← foldl_add_eq_sum]
      exact @emitChain_reads α _ _ I .add _ _ _ (.cons hx hs)
  | product =>
    obtain ⟨arity, emit⟩ := r
    obtain ⟨rfl, hmin⟩ : emit = .chain "*" .multiplicative ∧ 0 < arity.min := by
      simpa [Meaning.writes] using hw
    cases h with
    | nil =>
      have hzero := Arity.min_le_of_accepts hn
      simp only [List.length_nil] at hzero
      omega
    | cons hx hs =>
      rw [Meaning.apply, ← foldl_mul_eq_prod]
      exact @emitChain_reads α _ _ I .mul _ _ _ (.cons hx hs)
  | difference =>
    obtain rfl := beq_iff_eq.1 hw
    exact Emit.apply_reads_of_two
      (fun hl hr => @emitChain_reads α _ _ I .sub _ _ _ (.cons hl (.cons hr .nil))) hn h
  | quotient =>
    obtain rfl := beq_iff_eq.1 hw
    exact Emit.apply_reads_of_two
      (fun hl hr => @emitChain_reads α _ _ I .div _ _ _ (.cons hl (.cons hr .nil))) hn h
  | negation =>
    obtain rfl := beq_iff_eq.1 hw
    exact Emit.apply_reads_of_one unary_reads hn h
  | same =>
    obtain rfl := beq_iff_eq.1 hw
    exact Emit.apply_reads_of_one same_reads hn h
  | square =>
    obtain rfl := beq_iff_eq.1 hw
    exact Emit.apply_reads_of_one square_reads hn h
  | root =>
    obtain rfl := beq_iff_eq.1 hw
    exact Emit.apply_reads_of_two root_reads hn h
  | log =>
    obtain rfl := beq_iff_eq.1 hw
    -- one operand takes the first form, two the second
    have hlen : ems.length = 1 ∨ ems.length = 2 := by
      simp only [Arity.accepts, Bool.and_eq_true, decide_eq_true_eq] at hn
      omega
    rcases hlen with hone | htwo
    · obtain ⟨em, a, rfl, rfl, hl⟩ := forall₂_of_length_one h hone
      exact logTen_reads hl
    · obtain ⟨el, er, a, b, rfl, rfl, hl, hr⟩ := forall₂_of_length_two h htwo
      exact logBase_reads hl hr
  | logTen =>
    obtain rfl := beq_iff_eq.1 hw
    exact Emit.apply_reads_of_one logTen_reads hn h
  | reciprocal fn =>
    obtain ⟨hfn, rfl⟩ : IsName fn ∧ r = ⟨.exact 1, .template (Forms.reciprocal fn)⟩ := by
      simpa [Meaning.writes] using hw
    exact Emit.apply_reads_of_one (reciprocal_reads hfn) hn h
  | floorMod =>
    obtain rfl := beq_iff_eq.1 hw
    exact Emit.apply_reads_of_two floorMod_reads hn h
  | fold fn =>
    obtain ⟨arity, emit⟩ := r
    obtain ⟨⟨hfn, rfl⟩, hmin⟩ : (IsName fn ∧ emit = .fold fn) ∧ 1 < arity.min := by
      simpa [Meaning.writes] using hw
    have hlen := (Arity.min_le_of_accepts hn).trans' hmin
    -- at least two operands
    cases h with
    | nil => simp at hlen
    | cons h₀ h =>
      cases h with
      | nil => simp at hlen
      | cons h₁ hs => exact fold_reads hfn (.cons h₀ (.cons h₁ hs))
  | compare op =>
    obtain rfl := beq_iff_eq.1 hw
    exact Emit.apply_reads_of_two compare_reads hn h
  | builtin fn =>
    obtain ⟨arity, emit⟩ := r
    obtain ⟨hfn, rfl⟩ : IsName fn ∧ emit = .call fn := by
      simpa [Meaning.writes] using hw
    exact call_reads hfn h
  | unknown => simp [Meaning.writes] at hw

end FormulaShader
