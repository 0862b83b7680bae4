import FormulaShader.Proofs.Compile.FirstFault
import FormulaShader.Proofs.Compile.LexicalSafety
import FormulaShader.Proofs.Compile.TextReads
import FormulaShader.Proofs.Template.Reading
import FormulaShader.Bindings.Mode

/-!
# Every operand is written

An application is emitted from the compiled text of its operands, and several emissions have a
fallback for an operand that is not there: a leading minus takes the first operand, a comparison
the first two, a folded call starts from the first, an overloaded rule picks its form by the
operand count above its least one, and a template fills each slot with the operand of that
number, or with empty text when there is none. Given another count than the rule expects, each
of these would put empty text where an operand belongs, or leave an operand out.

It never happens. The compiler tests the count against the arity before it emits anything; the
rows of the library are shaped for their arities (`builtins_shaped`); and a template read from
text uses exactly the slot numbers below its arity (`Template.parse_slot_iff`), as the implicit
mode's difference does. So in a successful compile every application covers its operands, and
the text of each operand stands in the text of its parent.

Results:
* `Pieces.Covers`, `Emit.Covers`: an emission that reads each of `n` operands and no other.
* `Emit.Shaped`, `builtins_shaped`: the form of a rule that covers every count its arity
  accepts, checked for the whole library.
* `Emit.apply_contains`: a covering emission writes the text of every operand.
* `emit_ok_of_mem_levelled`: in a successful compile every node compiles.
* `compile_writes_every_operand`: in a successful compile under parsed overrides every
  application covers its operands and writes the text of each.
-/

namespace FormulaShader

namespace Piece

def within (n : Nat) : Piece → Bool
  | .text _ => true
  | .slot i => decide (i < n)

end Piece

namespace Emitted

theorem code_infix_grouped (e : Emitted) : e.code.toList <:+: e.grouped.toList := by
  unfold grouped
  split
  · simpa using List.infix_append ['('] e.code.toList [')']
  · exact List.infix_refl _

end Emitted

theorem infix_of_mem_joined {f : String → List Char} (hf : ∀ q, q.toList <:+: f q)
    {x p : String} {ps : List String} (h : x ∈ p :: ps) :
    x.toList <:+: p.toList ++ ps.flatMap f := by
  rcases List.mem_cons.1 h with rfl | hmem
  · exact (List.prefix_append _ _).isInfix
  · have hpart : f x ∈ ps.map f := List.mem_map_of_mem hmem
    exact ((hf x).trans (List.infix_of_mem_flatten hpart)).trans (List.suffix_append _ _).isInfix

theorem infix_intercalate {sep x : String} {xs : List String} (h : x ∈ xs) :
    x.toList <:+: (sep.intercalate xs).toList := by
  cases xs with
  | nil => simp at h
  | cons p ps =>
    rw [intercalate_text]
    exact infix_of_mem_joined (fun q => (List.suffix_append _ _).isInfix) h

namespace Pieces

/-- The slots of a piece list name exactly the operands below `n`: each slot has its operand,
so none is filled with empty text, and each operand has a slot, so none is left out. -/
def Covers (pieces : Pieces) (n : Nat) : Prop :=
  (∀ p ∈ pieces, p.within n) ∧ ∀ i < n, Piece.slot i ∈ pieces

instance (pieces : Pieces) (n : Nat) : Decidable (pieces.Covers n) :=
  inferInstanceAs (Decidable (_ ∧ _))

theorem covers_iff {pieces : Pieces} {n : Nat} :
    pieces.Covers n ↔ ∀ i, Piece.slot i ∈ pieces ↔ i < n := by
  constructor
  · rintro ⟨hwithin, hused⟩ i
    exact ⟨fun h => by simpa [Piece.within] using hwithin _ h, hused i⟩
  · intro h
    refine ⟨fun p hp => ?_, fun i hi => (h i).2 hi⟩
    cases p with
    | text s => rfl
    | slot i => simpa [Piece.within] using (h i).1 hp

theorem operand_infix_render {pieces : Pieces} {i : Nat} (h : Piece.slot i ∈ pieces)
    (args : List String) : (operand args i).toList <:+: (pieces.render args).toList := by
  induction pieces with
  | nil => simp at h
  | cons p ps ih =>
    rcases List.mem_cons.1 h with rfl | hmem
    · rw [render_slot, String.toList_append]
      exact (List.prefix_append _ _).isInfix
    · cases p with
      | text s =>
        rw [render_text, String.toList_append]
        exact (ih hmem).trans (List.suffix_append s.toList _).isInfix
      | slot j =>
        rw [render_slot, String.toList_append]
        exact (ih hmem).trans (List.suffix_append (operand args j).toList _).isInfix

theorem Covers.contains {pieces : Pieces} {args : List Emitted} (h : pieces.Covers args.length) :
    ∀ a ∈ args, a.code.toList <:+: (pieces.render (args.map Emitted.grouped)).toList := by
  intro a ha
  obtain ⟨i, hi, rfl⟩ := List.getElem_of_mem ha
  have hop : operand (args.map Emitted.grouped) i = args[i].grouped := by simp [operand, hi]
  exact args[i].code_infix_grouped.trans (hop ▸ operand_infix_render (h.2 i hi) _)

end Pieces

/-! ## Emission rules -/

/-- An emission given `n` operands reads each of them and nothing else: a leading operator gets
exactly one and a comparison exactly two, so that neither falls back on empty text nor leaves
one out; a folded call gets at least one to start from; an overloaded rule gets at least its
least count, has a form at the count above it, and that form covers the operands as a template
must. A chain and a call write every operand whatever their number. -/
def Emit.Covers (arity : Arity) (n : Nat) : Emit → Prop
  | .chain _ _ | .call _ => True
  | .unary _ => n = 1
  | .compare _ => n = 2
  | .fold _ => 0 < n
  | .template pieces => pieces.Covers n
  | .overloaded forms => arity.min ≤ n ∧ ∃ form, forms[n - arity.min]? = some form ∧ form.Covers n

/-- The form of a rule that covers every count its arity accepts: a leading operator takes
exactly one operand and a comparison exactly two; a folded call at least one; a template
exactly as many as its slots cover; an overloaded rule a range of counts, with one form for
each count of the range, in order, covering it. -/
def Emit.Shaped (arity : Arity) : Emit → Prop
  | .chain _ _ | .call _ => True
  | .unary _ => arity = .exact 1
  | .compare _ => arity = .exact 2
  | .fold _ => 0 < arity.min
  | .template pieces => arity = .exact arity.min ∧ pieces.Covers arity.min
  | .overloaded forms =>
    match arity with
    | .between lo hi =>
      forms.length = hi + 1 - lo ∧ ∀ j < forms.length, (forms.getD j []).Covers (lo + j)
    | _ => False

instance : (arity : Arity) → (e : Emit) → Decidable (e.Shaped arity)
  | _, .chain _ _ => inferInstanceAs (Decidable True)
  | _, .call _ => inferInstanceAs (Decidable True)
  | a, .unary _ => inferInstanceAs (Decidable (a = .exact 1))
  | a, .compare _ => inferInstanceAs (Decidable (a = .exact 2))
  | a, .fold _ => inferInstanceAs (Decidable (0 < a.min))
  | a, .template pieces => inferInstanceAs (Decidable (a = .exact a.min ∧ pieces.Covers a.min))
  | .between lo hi, .overloaded forms => inferInstanceAs (Decidable
      (forms.length = hi + 1 - lo ∧ ∀ j < forms.length, (forms.getD j []).Covers (lo + j)))
  | .exact _, .overloaded _ => inferInstanceAs (Decidable False)
  | .atLeast _, .overloaded _ => inferInstanceAs (Decidable False)

theorem Emit.Shaped.covers {emit : Emit} {arity : Arity} (h : emit.Shaped arity) {n : Nat}
    (hn : arity.accepts n) : emit.Covers arity n := by
  have hmin := Arity.min_le_of_accepts hn
  cases emit with
  | chain op prec => trivial
  | call fn => trivial
  | unary op =>
    subst h
    simpa [Arity.accepts, Emit.Covers] using hn
  | compare op =>
    subst h
    simpa [Arity.accepts, Emit.Covers] using hn
  | fold fn => exact Nat.lt_of_lt_of_le h hmin
  | template pieces =>
    obtain ⟨harity, hcov⟩ := h
    rw [harity] at hn
    simp only [Arity.accepts, beq_iff_eq] at hn
    exact hn ▸ hcov
  | overloaded forms =>
    cases arity with
    | between lo hi =>
      obtain ⟨hlen, hforms⟩ := h
      simp only [Arity.accepts, Bool.and_eq_true, decide_eq_true_eq] at hn
      simp only [Arity.min] at hmin ⊢
      have hj : n - lo < forms.length := by omega
      refine ⟨hmin, forms.getD (n - lo) [], by simp [Arity.min, hj], ?_⟩
      simpa [Nat.add_sub_cancel' hmin] using hforms (n - lo) hj
    | exact k => exact h.elim
    | atLeast k => exact h.elim

/-- Every row of the library is shaped for its arity. -/
theorem builtins_shaped : ∀ b ∈ Library.builtins, b.rule.emit.Shaped b.rule.arity := by
  decide

theorem lookup_shaped {name : String} {rule : Rule} (h : lookup name = some rule) :
    rule.emit.Shaped rule.arity := by
  obtain ⟨b, hb, rfl⟩ := Option.map_eq_some_iff.1 h
  exact builtins_shaped b (List.mem_of_find?_eq_some hb)

theorem emitChain_contains (op : String) (prec : Precedence) :
    ∀ (args : List Emitted), ∀ a ∈ args, a.code.toList <:+: (emitChain op prec args).code.toList
  | [], a, ha => by simp at ha
  | x :: xs, a, ha => by
    obtain ⟨i, hi, rfl⟩ := List.getElem_of_mem ha
    have hpart : chainPart op prec ((x :: xs)[i], i) ∈ (x :: xs).zipIdx.map (chainPart op prec) :=
      List.mem_map_of_mem (List.mem_zipIdx_iff_getElem?.2 (by simp))
    have hcode : (x :: xs)[i].code.toList <:+: (chainPart op prec ((x :: xs)[i], i)).toList := by
      unfold chainPart
      split
      · simpa using List.infix_append ['('] (x :: xs)[i].code.toList [')']
      · exact List.infix_refl _
    rw [emitChain_code, List.zipIdx_cons, List.map_cons, chain_text]
    rw [List.zipIdx_cons, List.map_cons] at hpart
    exact hcode.trans (infix_of_mem_joined
      (fun q => (List.suffix_append (' ' :: (op.toList ++ [' '])) q.toList).isInfix.trans
        (by simp)) hpart)

theorem unary_contains (op : String) (arity : Arity) (a : Emitted) :
    a.code.toList <:+: (Emit.apply (.unary op) arity [a]).code.toList := by
  have hin := a.code_infix_grouped
  have hcode : (Emit.apply (.unary op) arity [a]).code =
      if a.grouped.startsWith op then op ++ "(" ++ a.grouped ++ ")" else op ++ a.grouped := rfl
  rw [hcode]
  split
  · simpa using hin.trans (List.infix_append (op.toList ++ ['(']) a.grouped.toList [')'])
  · simpa using hin.trans (List.infix_append op.toList a.grouped.toList [])

theorem call_contains (fn : String) {codes : List String} {x : String} (hx : x ∈ codes) :
    x.toList <:+: (fn ++ "(" ++ ", ".intercalate codes ++ ")").toList := by
  simpa using (infix_intercalate hx).trans
    (List.infix_append (fn.toList ++ ['(']) (", ".intercalate codes).toList [')'])

theorem foldl_call_keeps (fn : String) :
    ∀ (rest : List String) (acc : String) (x : String), x.toList <:+: acc.toList →
      x.toList <:+: (rest.foldl (fun acc next => fn ++ "(" ++ acc ++ ", " ++ next ++ ")") acc).toList
  | [], acc, x, h => h
  | next :: rest, acc, x, h => by
    refine foldl_call_keeps fn rest _ x (h.trans ?_)
    simpa using List.infix_append (fn.toList ++ ['(']) acc.toList ([',', ' '] ++ next.toList ++ [')'])

theorem foldl_call_contains (fn : String) :
    ∀ (rest : List String) (first : String), ∀ x ∈ first :: rest,
      x.toList <:+: (rest.foldl (fun acc next => fn ++ "(" ++ acc ++ ", " ++ next ++ ")") first).toList
  | rest, first, x, h => by
    rcases List.mem_cons.1 h with rfl | hmem
    · exact foldl_call_keeps fn rest x x (List.infix_refl _)
    · cases rest with
      | nil => simp at hmem
      | cons next rest =>
        rcases List.mem_cons.1 hmem with rfl | hmem
        · refine foldl_call_keeps fn rest _ x ?_
          simpa using
            List.infix_append (fn.toList ++ '(' :: first.toList ++ [',', ' ']) x.toList [')']
        · exact foldl_call_contains fn rest _ x (List.mem_cons_of_mem _ hmem)

/-- A covering emission writes the text of every operand. -/
theorem Emit.apply_contains {emit : Emit} {arity : Arity} {args : List Emitted}
    (h : emit.Covers arity args.length) :
    ∀ a ∈ args, a.code.toList <:+: (emit.apply arity args).code.toList := by
  intro a ha
  cases emit with
  | chain op prec => exact emitChain_contains op prec args a ha
  | unary op =>
    obtain ⟨x, rfl⟩ := List.length_eq_one_iff.1 (show args.length = 1 from h)
    rw [List.mem_singleton] at ha
    subst ha
    exact unary_contains op arity a
  | call fn => exact call_contains fn (List.mem_map_of_mem ha)
  | fold fn =>
    cases args with
    | nil => simp at ha
    | cons x xs =>
      simp only [Emit.apply, List.map_cons]
      exact foldl_call_contains fn _ _ _ (List.mem_map_of_mem ha)
  | template pieces => exact Pieces.Covers.contains h a ha
  | overloaded forms =>
    obtain ⟨-, form, hform, hcov⟩ := h
    simp only [Emit.apply, hform, Option.getD_some, Emitted.atom]
    exact hcov.contains a ha
  | compare op =>
    obtain ⟨l, r, rfl⟩ := List.length_eq_two.1 (show args.length = 2 from h)
    simp only [Emit.apply, List.map_cons, List.map_nil, List.head?_cons, Option.getD_some,
      List.drop_succ_cons, List.drop_zero, Emitted.atom]
    rcases List.mem_pair.1 ha with rfl | rfl
    · simpa using List.infix_append ("select(0.0, 1.0, (").toList a.code.toList
        (' ' :: (op.symbol.toList ++ ' ' :: (r.code.toList ++ [')', ')'])))
    · simpa using List.infix_append ("select(0.0, 1.0, (" ++ l.code ++ " " ++ op.symbol ++ " ").toList
        a.code.toList [')', ')']

/-! ## The compiler -/

/-- The emission a compile chooses for an application of `name` covers its `n` operands: the
override's template when the table has one, the library rule otherwise. -/
def ChoiceCovers (b : Bindings) (name : String) (n : Nat) : Prop :=
  match b.lookupOverride name with
  | some t => t.pieces.Covers n
  | none => ∃ rule, lookup name = some rule ∧ rule.emit.Covers rule.arity n

section

variable {b : Bindings}

mutual

/-- In a successful compile every node of the tree compiles, at its own level. -/
theorem emit_ok_of_mem_levelled : ∀ (d : Nat) (e : Expr) (em : Emitted), emit b d e = .ok em →
    ∀ p ∈ e.levelled d, ∃ em', emit b p.1 p.2 = .ok em'
  | d, .literal x, em, h, p, hp => by
    rw [Expr.levelled, List.mem_singleton] at hp
    exact ⟨em, hp ▸ h⟩
  | d, .identifier name, em, h, p, hp => by
    rw [Expr.levelled, List.mem_singleton] at hp
    exact ⟨em, hp ▸ h⟩
  | d, .application name args, em, h, p, hp => by
    rw [Expr.levelled, List.mem_cons] at hp
    rcases hp with rfl | hp
    · exact ⟨em, h⟩
    · obtain ⟨-, out, hout, -⟩ := emit_application_eq_ok.1 h
      exact emitAll_ok_of_mem_levelled (d + 1) args out hout p hp
  | d, .foreign desc, em, h, p, hp => by
    rw [Expr.levelled, List.mem_singleton] at hp
    exact ⟨em, hp ▸ h⟩

theorem emitAll_ok_of_mem_levelled : ∀ (d : Nat) (es : List Expr) (ems : List Emitted),
    emitAll b d es = .ok ems → ∀ p ∈ Expr.levelledAll d es, ∃ em', emit b p.1 p.2 = .ok em'
  | d, [], ems, h, p, hp => by simp [Expr.levelledAll] at hp
  | d, e :: es, ems, h, p, hp => by
    obtain ⟨x, xs, hx, hxs, -⟩ := emitAll_cons_eq_ok.1 h
    rw [Expr.levelledAll, List.mem_append] at hp
    rcases hp with hp | hp
    · exact emit_ok_of_mem_levelled d e x hx p hp
    · exact emitAll_ok_of_mem_levelled d es xs hxs p hp

end

/-- An application that compiles, under overrides that cover their arity, covers its operands
and writes the text of each. -/
theorem emit_application_writes
    (hover : ∀ name t, b.lookupOverride name = some t → t.pieces.Covers t.arity)
    {d : Nat} {name : String} {args : List Expr} {em : Emitted}
    (h : emit b d (.application name args) = .ok em) :
    ChoiceCovers b name args.length ∧ ∃ out, emitAll b (d + 1) args = .ok out ∧
      ∀ a ∈ out, a.code.toList <:+: em.code.toList := by
  obtain ⟨-, out, hout, ⟨t, ho, harity, rfl⟩ | ⟨ho, rule, hl, hacc, rfl⟩⟩ :=
    emit_application_eq_ok.1 h
  · have hcov : t.pieces.Covers args.length := harity ▸ hover name t ho
    refine ⟨by simpa [ChoiceCovers, ho] using hcov, out, hout, ?_⟩
    exact Pieces.Covers.contains ((emitAll_length hout).symm ▸ hcov)
  · have hcov : rule.emit.Covers rule.arity args.length := (lookup_shaped hl).covers hacc
    refine ⟨by simpa [ChoiceCovers, ho] using ⟨rule, hl, hcov⟩, out, hout, ?_⟩
    exact Emit.apply_contains ((emitAll_length hout).symm ▸ hcov)

end

/-- No operand is dropped or left empty. Under bindings whose overrides are read from template
text or are the implicit mode's difference, at every application node of a formula that
compiles the emission chosen covers the operands (no fallback is taken, no slot lacks its
operand, every operand is read), and the text of each compiled operand stands in the text of
the node. -/
theorem compile_writes_every_operand (e : Expr) (b : Bindings)
    (hover : ∀ name t, b.lookupOverride name = some t →
      (∃ s, Template.parse s = .ok t) ∨ t = Template.difference)
    {f : String} (hf : compile e b = .ok f) :
    ∀ p ∈ e.levelled 1, ∀ name args, p.2 = .application name args →
      ChoiceCovers b name args.length ∧
      ∃ out em, emitAll b (p.1 + 1) args = .ok out ∧ emit b p.1 p.2 = .ok em ∧
        ∀ a ∈ out, a.code.toList <:+: em.code.toList := by
  have hcov : ∀ name t, b.lookupOverride name = some t → t.pieces.Covers t.arity := by
    intro name t ht
    rcases hover name t ht with ⟨s, hs⟩ | rfl
    · exact Pieces.covers_iff.2 (Template.parse_slot_iff hs)
    · decide
  obtain ⟨em₀, hem₀, -⟩ := compile_eq_ok_iff.1 hf
  intro p hp name args hnode
  obtain ⟨em, hem⟩ := emit_ok_of_mem_levelled 1 e em₀ hem₀ p hp
  rw [hnode] at hem
  obtain ⟨hchoice, out, hout, hin⟩ := emit_application_writes hcov hem
  exact ⟨hchoice, out, em, hout, hnode ▸ hem, hin⟩

/-- Under the implicit mode's table a formula with an equation, a logarithm to a base, a square
and a minimum compiles, and every application in it writes each of its operands. -/
theorem implicit_mode_writes_every_operand :
    (∀ name t, PlotMode.implicit.bindings.lookupOverride name = some t →
      (∃ s, Template.parse s = .ok t) ∨ t = Template.difference) ∧
    compile (.application "Equal"
        [.application "Log" [.identifier "x", .identifier "y"],
         .application "Min" [.application "Square" [.identifier "z"], .identifier "t"]])
      PlotMode.implicit.bindings = .ok "((log(pos.x) / log(pos.y)) - min((pos.z * pos.z), time()))" ∧
    ∀ p ∈ (Expr.application "Equal"
        [.application "Log" [.identifier "x", .identifier "y"],
         .application "Min" [.application "Square" [.identifier "z"], .identifier "t"]]).levelled 1,
      ∀ name args, p.2 = .application name args →
        ChoiceCovers PlotMode.implicit.bindings name args.length ∧
        ∃ out em, emitAll PlotMode.implicit.bindings (p.1 + 1) args = .ok out ∧
          emit PlotMode.implicit.bindings p.1 p.2 = .ok em ∧
          ∀ a ∈ out, a.code.toList <:+: em.code.toList := by
  have hentries : ∀ p ∈ PlotMode.implicit.bindings.overrides.entries,
      p.2 = Template.difference := by
    decide
  have hover : ∀ name t, PlotMode.implicit.bindings.lookupOverride name = some t →
      (∃ s, Template.parse s = .ok t) ∨ t = Template.difference :=
    fun name t h => .inr (hentries (name, t) (NameMap.mem_entries_of_find? h))
  have hc : compile (.application "Equal"
        [.application "Log" [.identifier "x", .identifier "y"],
         .application "Min" [.application "Square" [.identifier "z"], .identifier "t"]])
      PlotMode.implicit.bindings = .ok "((log(pos.x) / log(pos.y)) - min((pos.z * pos.z), time()))" := by
    rfl
  exact ⟨hover, hc, compile_writes_every_operand _ _ hover hc⟩

end FormulaShader
