import FormulaShader.Compile.Basic
import FormulaShader.Proofs.Compile.Success
import FormulaShader.Bindings.Mode
import FormulaShader.Proofs.Text.Lexical

/-!
# Compiled text holds no decrement and balances its parentheses

The compiler writes text around the text of its operands, so the two lexical facts of
`FormulaShader.Proofs.Text.Lexical` pass from the operands to the whole once every piece of
text the compiler adds is safe, and so is every junction between an operand and what follows.

The pieces come from four places: literals, which are a sign and a plain decimal; the bound
text of identifiers; the library's rules, checked once row by row (`builtins_safe`); and
override templates. The junctions are safe because an operand that may end in a minus sign
never stands right before a character that may be one: in a template and under a leading
minus an operand is parenthesized unless it binds as an atom, and an atom never ends in a
minus sign; between chain operands and call arguments stand spaces and commas. A leading
minus before an operand that starts with a minus sign gets parentheses as well.

Results:
* `Binary32.literalText_shape`: a finite literal is an optional minus sign and a nonempty run
  of digits and points.
* `Pieces.Safe.render`: a safe template filled with sealed operands is sealed.
* `builtins_safe`: every library rule writes only safe text.
* `Emit.apply_wellFormed`: a safe rule over well-formed operands emits well-formed text.
* `emit_wellFormed`: every compiled subtree is well formed.
* `compile_lexically_clean`: compiled text holds no `--` and balances its parentheses.
-/

namespace FormulaShader

instance : DecidablePred Lexical := fun s =>
  decidable_of_iff (NoDecrement s ∧ Balanced s) ⟨fun h => ⟨h.1, h.2⟩, fun h => ⟨h.1, h.2⟩⟩

instance : DecidablePred Closed := fun s =>
  decidable_of_iff (NoDecrement s ∧ s.getLast? ≠ some '-') ⟨fun h => ⟨h.1, h.2⟩,
    fun h => ⟨h.1, h.2⟩⟩

/-! ## Literals -/

def Numeral (l : List Char) : Prop := ∀ c ∈ l, c.isDigit ∨ c = '.'

@[simp] theorem numeral_append {a b : List Char} : Numeral (a ++ b) ↔ Numeral a ∧ Numeral b :=
  List.forall_mem_append

@[simp] theorem numeral_nil : Numeral [] := fun _ h => absurd h List.not_mem_nil

theorem Numeral.take {l : List Char} (h : Numeral l) (n : Nat) : Numeral (l.take n) :=
  fun c hc => h c (List.mem_of_mem_take hc)

theorem Numeral.drop {l : List Char} (h : Numeral l) (n : Nat) : Numeral (l.drop n) :=
  fun c hc => h c (List.mem_of_mem_drop hc)

theorem Numeral.not_special {l : List Char} (h : Numeral l) :
    ∀ c ∈ l, c ≠ '-' ∧ c ≠ '(' ∧ c ≠ ')' := by
  intro c hc
  rcases h c hc with hd | rfl
  · refine ⟨?_, ?_, ?_⟩ <;> rintro rfl <;> exact absurd hd (by decide)
  · decide

theorem toString_numeral (n : Nat) : Numeral (toString n).toList := by
  rw [Nat.toString_eq_ofList_toDigits, String.toList_ofList]
  exact fun c hc => .inl (Nat.isDigit_of_mem_toDigits (by decide) (by decide) hc)

theorem toString_ne_nil (n : Nat) : (toString n).toList ≠ [] := by
  rw [Nat.toString_eq_ofList_toDigits, String.toList_ofList]
  exact Nat.toDigits_ne_nil

namespace Decimal

theorem zeros_numeral (n : Nat) : Numeral (zeros n).toList := by
  intro c hc
  simp only [zeros, String.toList_ofList] at hc
  rw [List.eq_of_mem_replicate hc]
  exact .inl (by decide)

theorem positional_numeral (d : Decimal) (k : Nat) : Numeral (d.positional k).toList := by
  have h0 : Numeral "0".toList := by simp [Numeral]
  have hdot : Numeral ".".toList := by simp [Numeral]
  have hs : Numeral d.digitText.toList := toString_numeral d.digits
  simp only [positional]
  split_ifs <;> simp only [String.toList_append, String.toList_ofList, String.toList_empty,
    numeral_append, numeral_nil, h0, hdot, hs, hs.take, hs.drop, zeros_numeral, and_self]

theorem positional_ne_nil (d : Decimal) (k : Nat) : (d.positional k).toList ≠ [] := by
  have hs : d.digitText.toList ≠ [] := toString_ne_nil d.digits
  simp only [positional]
  split_ifs <;> simp_all [String.toList_append]

end Decimal

theorem sign_text (negative : Bool) :
    (if negative then "-" else "").toList = [] ∨ (if negative then "-" else "").toList = ['-'] := by
  cases negative <;> simp

/-- A finite single is written as an optional minus sign and a nonempty run of digits and
points: its exact integer with `.0` when it is integral, its shortest decimal positionally
otherwise. -/
theorem Binary32.literalText_shape (x : Binary32) (hx : x.isFinite) :
    ∃ sign body, x.literalText.toList = sign ++ body ∧ (sign = [] ∨ sign = ['-']) ∧
      body ≠ [] ∧ Numeral body := by
  obtain ⟨negative, m, e, hv⟩ : ∃ negative m e, x.value = .finite negative m e := by
    unfold Binary32.isFinite at hx
    split at hx
    · exact ⟨_, _, _, ‹_›⟩
    · cases hx
  unfold Binary32.literalText
  rw [hv]
  dsimp only
  split
  · -- an integral value: its integer and `.0`
    refine ⟨_, (toString (integralPart m e)).toList ++ ".0".toList, by simp, sign_text negative,
      by simp, ?_⟩
    simp only [numeral_append, toString_numeral, true_and]
    simp [Numeral]
  · -- any other value: its shortest decimal, positionally
    refine ⟨_, (Decimal.positional (shortestDecimal BinaryFormat.binary32 .up m e) 0).toList,
      ?_, sign_text negative, Decimal.positional_ne_nil _ _, Decimal.positional_numeral _ _⟩
    simp [Binary32.format, FloatLayout.render, FloatLayout.place, FloatLayout.plain, hv]

/-- The text of a finite literal is sealed: it ends in a digit or a point and holds at most
one minus sign, at its front. -/
theorem Binary32.literalText_sealed (x : Binary32) (hx : x.isFinite) :
    Sealed x.literalText.toList := by
  obtain ⟨sign, body, htext, hsign, hne, hnum⟩ := x.literalText_shape hx
  have hplain := hnum.not_special
  have hbody : Sealed body := by
    refine ⟨⟨noDecrement_of_not_mem fun h => (hplain _ h).1 rfl, ?_⟩,
      balanced_of_no_parens ⟨fun h => (hplain _ h).2.1 rfl, fun h => (hplain _ h).2.2 rfl⟩⟩
    rw [List.getLast?_eq_some_getLast hne]
    exact fun h => (hplain _ (List.getLast_mem hne)).1 (Option.some.inj h)
  rw [htext]
  rcases hsign with rfl | rfl
  · simpa using hbody
  · -- the minus sign is followed by a digit or a point
    have hhead : body.head? ≠ some '-' := fun h => (hplain _ (List.mem_of_mem_head? h)).1 rfl
    refine ⟨⟨noDecrement_append.2 ⟨by decide, hbody.noDecrement, fun h => hhead h.2⟩, ?_⟩,
      (balanced_of_no_parens ⟨by decide, by decide⟩).append hbody.balanced⟩
    rw [List.getLast?_append, List.getLast?_eq_some_getLast hne]
    exact fun h => (hplain _ (List.getLast_mem hne)).1 (Option.some.inj h)

/-! ## Templates -/

namespace Piece

/-- A piece whose text is safe beside anything; a slot is filled by the compiler. -/
def Clean : Piece → Prop
  | .text s => Closed s.toList
  | .slot _ => True

instance : DecidablePred Clean
  | .text s => inferInstanceAs (Decidable (Closed s.toList))
  | .slot _ => inferInstanceAs (Decidable True)

end Piece

namespace Pieces

/-- A template that writes only safe text around its slots: every text piece is closed, and
the text with every slot left empty balances its parentheses. -/
def Safe (pieces : Pieces) : Prop :=
  (∀ p ∈ pieces, p.Clean) ∧ Balanced (pieces.render []).toList

instance : DecidablePred Safe := fun _ => inferInstanceAs (Decidable (_ ∧ _))

@[simp] theorem render_nil (args : List String) : render [] args = "" := by
  simp [render]

@[simp] theorem render_text (s : String) (ps : Pieces) (args : List String) :
    render (.text s :: ps) args = s ++ render ps args := by
  simp [render]

@[simp] theorem render_slot (i : Nat) (ps : Pieces) (args : List String) :
    render (.slot i :: ps) args = operand args i ++ render ps args := by
  simp [render]

theorem operand_of_forall {P : String → Prop} {args : List String} (h : ∀ a ∈ args, P a)
    (hempty : P "") (i : Nat) : P (operand args i) := by
  unfold operand
  cases hi : args[i]? with
  | none => exact hempty
  | some a => exact h a (List.mem_of_getElem? hi)

theorem render_closed {args : List String} (hargs : ∀ a ∈ args, Closed a.toList) :
    ∀ {pieces : Pieces}, (∀ p ∈ pieces, p.Clean) → Closed (pieces.render args).toList
  | [], _ => by simpa using sealed_nil.toClosed
  | .text s :: ps, h => by
    have hs : Closed s.toList := h _ List.mem_cons_self
    rw [render_text, String.toList_append]
    exact hs.append (render_closed hargs fun p hp => h p (List.mem_cons_of_mem _ hp))
  | .slot i :: ps, h => by
    have hop : Closed (operand args i).toList :=
      operand_of_forall hargs (by simpa using sealed_nil.toClosed) i
    rw [render_slot, String.toList_append]
    exact hop.append (render_closed hargs fun p hp => h p (List.mem_cons_of_mem _ hp))

/-- Filling the slots with balanced operands keeps a template's balance: each operand is a
balanced text put into the text around it. The induction runs over the pieces and carries the
text written before them. -/
theorem render_balanced {args : List String} (hargs : ∀ a ∈ args, Balanced a.toList) :
    ∀ (pieces : Pieces) (u : List Char), Balanced (u ++ (pieces.render []).toList) →
      Balanced (u ++ (pieces.render args).toList)
  | [], u, h => by simpa using h
  | .text s :: ps, u, h => by
    simp only [render_text, String.toList_append, ← List.append_assoc] at h ⊢
    exact render_balanced hargs ps (u ++ s.toList) h
  | .slot i :: ps, u, h => by
    have hop : Balanced (operand args i).toList :=
      operand_of_forall hargs (by simpa using sealed_nil.balanced) i
    have hempty : (operand [] i).toList = [] := by simp [operand]
    simp only [render_slot, String.toList_append, hempty, List.nil_append] at h ⊢
    rw [← List.append_assoc]
    exact balanced_insert (render_balanced hargs ps u h) hop

/-- A safe template filled with sealed operands is sealed. -/
theorem Safe.render {pieces : Pieces} (hs : pieces.Safe) {args : List String}
    (hargs : ∀ a ∈ args, Sealed a.toList) : Sealed (pieces.render args).toList :=
  ⟨render_closed (fun a ha => (hargs a ha).toClosed) hs.1,
    by simpa using render_balanced (fun a ha => (hargs a ha).balanced) pieces [] (by simpa using hs.2)⟩

end Pieces

/-! ## The library -/

/-- The text a rule writes around its operands is safe: a chain's operator is clean and the
chain does not bind as an atom; the only leading operator is the minus sign; the name of a
called function is clean, and a folded one has at least two operands to fold; templates are
safe. A comparison writes fixed text. -/
def Emit.Safe (arity : Arity) : Emit → Prop
  | .chain op prec => Lexical op.toList ∧ prec ≠ .atom
  | .unary op => op = "-"
  | .call fn => Lexical fn.toList
  | .fold fn => Lexical fn.toList ∧ 2 ≤ arity.min
  | .template pieces => pieces.Safe
  | .overloaded forms => ∀ p ∈ forms, p.Safe
  | .compare _ => True

instance : (arity : Arity) → (e : Emit) → Decidable (e.Safe arity)
  | _, .chain op prec => inferInstanceAs (Decidable (Lexical op.toList ∧ prec ≠ .atom))
  | _, .unary op => inferInstanceAs (Decidable (op = "-"))
  | _, .call fn => inferInstanceAs (Decidable (Lexical fn.toList))
  | arity, .fold fn => inferInstanceAs (Decidable (Lexical fn.toList ∧ 2 ≤ arity.min))
  | _, .template pieces => inferInstanceAs (Decidable pieces.Safe)
  | _, .overloaded forms => inferInstanceAs (Decidable (∀ p ∈ forms, p.Safe))
  | _, .compare _ => inferInstanceAs (Decidable True)

def Rule.Safe (r : Rule) : Prop := r.emit.Safe r.arity

instance : DecidablePred Rule.Safe := fun r => inferInstanceAs (Decidable (r.emit.Safe r.arity))

/-- Every rule of the library writes only safe text. -/
theorem builtins_safe : ∀ b ∈ Library.builtins, b.rule.Safe := by
  decide

theorem lookup_safe {name : String} {rule : Rule} (h : lookup name = some rule) : rule.Safe := by
  obtain ⟨b, hb, rfl⟩ := Option.map_eq_some_iff.1 h
  exact builtins_safe b (List.mem_of_find?_eq_some hb)

theorem Arity.min_le_of_accepts {a : Arity} {n : Nat} (h : a.accepts n) : a.min ≤ n := by
  cases a <;> simp_all [Arity.accepts, Arity.min]

/-! ## Emitted text -/

namespace Emitted

/-- What every emitted text satisfies: it is lexically clean, and when it binds as an atom it
does not end in a minus sign. -/
structure WellFormed (em : Emitted) : Prop where
  lexical : Lexical em.code.toList
  atom_last : em.prec = .atom → em.code.toList.getLast? ≠ some '-'

theorem WellFormed.ofSealed {code : String} {prec : Precedence} (h : Sealed code.toList) :
    WellFormed ⟨code, prec⟩ :=
  ⟨h.toLexical, fun _ => h.last⟩

theorem eq_atom_of_not_lt {p : Precedence} (h : ¬ p < .atom) : p = .atom := by
  cases p
  all_goals first | rfl | exact absurd (by decide) h

/-- An operand in parentheses unless it binds as an atom is sealed. -/
theorem WellFormed.grouped {em : Emitted} (h : em.WellFormed) : Sealed em.grouped.toList := by
  unfold Emitted.grouped
  split
  · simpa using h.lexical.wrap
  · exact ⟨⟨h.lexical.noDecrement, h.atom_last (eq_atom_of_not_lt ‹_›)⟩, h.lexical.balanced⟩

end Emitted

theorem mem_intersperse {α : Type} {sep x : α} :
    ∀ {l : List α}, x ∈ l.intersperse sep → x = sep ∨ x ∈ l
  | [], h => by simp at h
  | [a], h => .inr (by simpa using h)
  | a :: b :: l, h => by
    simp only [List.intersperse_cons_cons, List.mem_cons] at h
    rcases h with rfl | rfl | h
    · exact .inr List.mem_cons_self
    · exact .inl rfl
    · exact (mem_intersperse h).imp_right (List.mem_cons_of_mem a)

theorem lexical_intercalate {sep : String} (hsep : sep = ", " ∨ sep = " ") {xs : List String}
    (h : ∀ x ∈ xs, Lexical x.toList) : Lexical (sep.intercalate xs).toList := by
  rw [String.toList_intercalate]
  have hsep' : '-' ∉ sep.toList ∧ ('(' ∉ sep.toList ∧ ')' ∉ sep.toList) ∧ sep.toList ≠ [] := by
    rcases hsep with rfl | rfl <;> simp
  refine Lexical.intercalate hsep'.1 hsep'.2.1 hsep'.2.2 fun x hx => ?_
  obtain ⟨y, hy, rfl⟩ := List.mem_map.1 hx
  exact h y hy

theorem call_sealed {fn : String} {codes : List String} (hfn : Lexical fn.toList)
    (hcodes : ∀ c ∈ codes, Lexical c.toList) :
    Sealed (fn ++ "(" ++ ", ".intercalate codes ++ ")").toList := by
  simpa using hfn.append_wrap (lexical_intercalate (.inl rfl) hcodes)

theorem fold_step_sealed {fn acc next : String} (hfn : Lexical fn.toList)
    (hacc : Lexical acc.toList) (hnext : Lexical next.toList) :
    Sealed (fn ++ "(" ++ acc ++ ", " ++ next ++ ")").toList := by
  have hcall := @call_sealed fn [acc, next] hfn (by simpa using ⟨hacc, hnext⟩)
  simpa [String.append_assoc] using hcall

theorem foldl_call_sealed {fn : String} (hfn : Lexical fn.toList) :
    ∀ (rest : List String) (acc : String), Sealed acc.toList → (∀ c ∈ rest, Lexical c.toList) →
      Sealed (rest.foldl (fun acc next => fn ++ "(" ++ acc ++ ", " ++ next ++ ")") acc).toList
  | [], _, h, _ => h
  | next :: rest, _, h, hrest =>
    foldl_call_sealed hfn rest _ (fold_step_sealed hfn h.toLexical (hrest next List.mem_cons_self))
      fun c hc => hrest c (List.mem_cons_of_mem _ hc)

theorem compare_sealed {l r : String} (hl : Lexical l.toList) (hr : Lexical r.toList)
    (op : CompareOp) :
    Sealed ("select(0.0, 1.0, (" ++ l ++ " " ++ op.symbol ++ " " ++ r ++ "))").toList := by
  have hsym : Lexical op.symbol.toList := by
    cases op <;> decide
  have hinner : Lexical (" ".intercalate [l, op.symbol, r]).toList :=
    lexical_intercalate (.inr rfl) (by simp [hl, hsym, hr])
  have hargs : ∀ c ∈ ["0.0", "1.0", "(" ++ " ".intercalate [l, op.symbol, r] ++ ")"],
      Lexical c.toList := by
    intro c hc
    simp only [List.mem_cons, List.not_mem_nil, or_false] at hc
    rcases hc with rfl | rfl | rfl
    · decide
    · decide
    · simpa using hinner.wrap.toLexical
  have hcall := @call_sealed "select" _ (by decide) hargs
  simpa [String.append_assoc] using hcall

/-! ## One step of the compiler -/

theorem emitChain_wellFormed {op : String} {prec : Precedence} {args : List Emitted}
    (hop : Lexical op.toList) (hprec : prec ≠ .atom) (hargs : ∀ a ∈ args, a.WellFormed) :
    (emitChain op prec args).WellFormed := by
  unfold emitChain
  refine ⟨lexical_intercalate (.inr rfl) fun x hx => ?_, fun h => absurd h hprec⟩
  rcases mem_intersperse hx with rfl | hpart
  · exact hop
  · obtain ⟨⟨arg, i⟩, hmem, rfl⟩ := List.mem_map.1 hpart
    have harg := hargs arg (List.fst_mem_of_mem_zipIdx hmem)
    dsimp only
    split
    · simpa using harg.lexical.wrap.toLexical
    · exact harg.lexical

/-- A leading minus: its operand in parentheses unless it is an atom, and in parentheses once
more when it still starts with a minus sign. -/
theorem unary_wellFormed {arity : Arity} {args : List Emitted} (hargs : ∀ a ∈ args, a.WellFormed) :
    ((Emit.unary "-").apply arity args).WellFormed := by
  have hinner : Sealed ((args.head?.map Emitted.grouped).getD "").toList := by
    cases h : args.head? with
    | none => simpa using sealed_nil
    | some a => simpa using (hargs a (List.mem_of_mem_head? h)).grouped
  have hminus : Lexical ['-'] := ⟨by decide, by decide⟩
  simp only [Emit.apply]
  refine ⟨?_, fun h => by cases h⟩
  split
  · -- the operand starts with a minus sign itself
    simpa using (hminus.append_wrap hinner.toLexical).toLexical
  · -- otherwise the minus sign goes right before it
    rename_i hstart
    have hhead : ((args.head?.map Emitted.grouped).getD "").toList.head? ≠ some '-' := by
      intro h
      obtain ⟨t, ht⟩ := List.head?_eq_some_iff.1 h
      exact hstart (String.startsWith_string_iff.2 (by rw [ht]; exact ⟨t, rfl⟩))
    simpa using hminus.append hinner.toLexical (.inr hhead)

/-- A safe rule over well-formed operands, as many as its arity accepts, emits well-formed
text. -/
theorem Emit.apply_wellFormed {emit : Emit} {arity : Arity} {args : List Emitted}
    (hsafe : emit.Safe arity) (hargs : ∀ a ∈ args, a.WellFormed)
    (hacc : arity.accepts args.length) : (emit.apply arity args).WellFormed := by
  have hcodes : ∀ c ∈ args.map Emitted.code, Lexical c.toList := by
    intro c hc
    obtain ⟨a, ha, rfl⟩ := List.mem_map.1 hc
    exact (hargs a ha).lexical
  have hgrouped : ∀ g ∈ args.map Emitted.grouped, Sealed g.toList := by
    intro g hg
    obtain ⟨a, ha, rfl⟩ := List.mem_map.1 hg
    exact (hargs a ha).grouped
  cases emit with
  | chain op prec => exact emitChain_wellFormed hsafe.1 hsafe.2 hargs
  | unary op =>
    cases hsafe
    exact unary_wellFormed hargs
  | call fn => exact .ofSealed (call_sealed hsafe hcodes)
  | fold fn =>
    -- the arity asks for two operands at least, so the fold makes at least one call
    obtain ⟨hfn, hmin⟩ := hsafe
    have hlen : 2 ≤ (args.map Emitted.code).length := by
      have := Arity.min_le_of_accepts hacc
      simp only [List.length_map]
      omega
    simp only [Emit.apply]
    match hm : args.map Emitted.code, hlen, hcodes with
    | first :: next :: rest, _, hc =>
      apply Emitted.WellFormed.ofSealed
      rw [List.foldl_cons]
      exact foldl_call_sealed hfn rest _
        (fold_step_sealed hfn (hc first (by simp)) (hc next (by simp)))
        fun c h => hc c (by simp [h])
  | template pieces => exact .ofSealed (hsafe.render hgrouped)
  | overloaded forms =>
    have hform : (forms[args.length - arity.min]?.getD []).Safe := by
      cases h : forms[args.length - arity.min]? with
      | none => exact ⟨by simp, by simpa using sealed_nil.balanced⟩
      | some p => exact hsafe p (List.mem_of_getElem? h)
    exact .ofSealed (hform.render hgrouped)
  | compare op =>
    have hl : Lexical ((args.map Emitted.code).head?.getD "").toList := by
      cases h : (args.map Emitted.code).head? with
      | none => simpa using sealed_nil.toLexical
      | some c => exact hcodes c (List.mem_of_mem_head? h)
    have hr : Lexical (((args.map Emitted.code).drop 1).head?.getD "").toList := by
      cases h : ((args.map Emitted.code).drop 1).head? with
      | none => simpa using sealed_nil.toLexical
      | some c => exact hcodes c (List.mem_of_mem_drop (List.mem_of_mem_head? h))
    exact .ofSealed (compare_sealed hl hr op)

/-! ## The whole compiler -/

section

variable {b : Bindings}

mutual

/-- Under bindings whose texts are sealed and whose overrides are safe, every compiled subtree
is well formed. The induction follows the tree; at an application its operands come first,
and `Emit.apply_wellFormed` or the template lemma does the step. -/
theorem emit_wellFormed (hvars : ∀ name text, b.lookupVar name = some text → Sealed text.toList)
    (hover : ∀ name t, b.lookupOverride name = some t → t.pieces.Safe) :
    ∀ (d : Nat) (e : Expr) (em : Emitted), emit b d e = .ok em → em.WellFormed
  | d, .literal x, em, h => by
    obtain ⟨-, hlit⟩ := emit_literal_eq_ok.1 h
    obtain ⟨hfin, rfl⟩ := emitLiteral_eq_ok.1 hlit
    exact .ofSealed (x.toBinary32.literalText_sealed hfin)
  | d, .identifier name, em, h => by
    obtain ⟨-, text, hv, rfl⟩ := emit_identifier_eq_ok.1 h
    exact .ofSealed (hvars name text hv)
  | d, .application name args, em, h => by
    obtain ⟨-, out, hout, ⟨t, ho, -, rfl⟩ | ⟨-, rule, hl, hacc, rfl⟩⟩ := emit_application_eq_ok.1 h
    · -- an override writes its template around the grouped operands
      refine .ofSealed ((hover name t ho).render fun g hg => ?_)
      obtain ⟨a, ha, rfl⟩ := List.mem_map.1 hg
      exact (emitAll_wellFormed hvars hover (d + 1) args out hout a ha).grouped
    · -- a library rule emits its operands
      refine Emit.apply_wellFormed (lookup_safe hl) (emitAll_wellFormed hvars hover (d + 1) args out hout) ?_
      rwa [emitAll_length hout]
  | d, .foreign _, em, h => absurd h emit_foreign_ne_ok

theorem emitAll_wellFormed
    (hvars : ∀ name text, b.lookupVar name = some text → Sealed text.toList)
    (hover : ∀ name t, b.lookupOverride name = some t → t.pieces.Safe) :
    ∀ (d : Nat) (es : List Expr) (ems : List Emitted),
      emitAll b d es = .ok ems → ∀ a ∈ ems, a.WellFormed
  | d, [], ems, h => by simp [emitAll_nil_eq_ok.1 h]
  | d, e :: es, ems, h => by
    obtain ⟨x, xs, hx, hxs, rfl⟩ := emitAll_cons_eq_ok.1 h
    intro a ha
    rcases List.mem_cons.1 ha with rfl | ha
    · exact emit_wellFormed hvars hover d e a hx
    · exact emitAll_wellFormed hvars hover d es xs hxs a ha

end

end

theorem decrement_toList : "--".toList = ['-', '-'] := by
  decide

/-- Compiled text is lexically well formed. Under bindings whose texts hold no `--`, do not
end in a minus sign and balance their parentheses, and whose override templates write such
text around their slots, a compiled formula holds no `--` and balances its parentheses. -/
theorem compile_lexically_clean (e : Expr) (b : Bindings)
    (hvars : ∀ name text, b.lookupVar name = some text →
      ¬ "--".toList <:+: text.toList ∧ text.toList.getLast? ≠ some '-' ∧ Balanced text.toList)
    (hover : ∀ name t, b.lookupOverride name = some t →
      (∀ s, Piece.text s ∈ t.pieces →
        ¬ "--".toList <:+: s.toList ∧ s.toList.getLast? ≠ some '-') ∧
      Balanced (t.render []).toList)
    {f : String} (hf : compile e b = .ok f) :
    ¬ "--".toList <:+: f.toList ∧ Balanced f.toList := by
  rw [decrement_toList] at hvars hover ⊢
  have hsealed : ∀ name text, b.lookupVar name = some text → Sealed text.toList := by
    intro name text h
    obtain ⟨hdec, hlast, hbal⟩ := hvars name text h
    exact ⟨⟨(noDecrement_iff _).2 hdec, hlast⟩, hbal⟩
  have hsafe : ∀ name t, b.lookupOverride name = some t → t.pieces.Safe := by
    intro name t h
    obtain ⟨htext, hbal⟩ := hover name t h
    refine ⟨fun p hp => ?_, hbal⟩
    cases p with
    | text s => exact ⟨(noDecrement_iff _).2 (htext s hp).1, (htext s hp).2⟩
    | slot _ => trivial
  obtain ⟨em, hem, rfl⟩ : ∃ em, emit b 1 e = .ok em ∧ em.code = f := by
    unfold compile at hf
    cases h : emit b 1 e with
    | error err => simp [h, Except.map] at hf
    | ok em => exact ⟨em, rfl, by simpa [h, Except.map] using hf⟩
  have hwf := emit_wellFormed hsealed hsafe 1 e em hem
  exact ⟨(noDecrement_iff _).1 hwf.lexical.noDecrement, hwf.lexical.balanced⟩

theorem NameMap.mem_entries_of_find? {α : Type} {m : NameMap α} {name : String} {v : α}
    (h : m.find? name = some v) : (name, v) ∈ m.entries := by
  obtain ⟨l₁, l₂, hl, -⟩ := List.lookup_eq_some_iff.1 h
  rw [hl]
  exact List.mem_append_right _ List.mem_cons_self

/-- The implicit mode's own table meets the conditions, and the difference it writes for an
equation compiles to clean text. -/
theorem implicit_mode_compiles_clean :
    (∀ name text, PlotMode.implicit.bindings.lookupVar name = some text →
      ¬ "--".toList <:+: text.toList ∧ text.toList.getLast? ≠ some '-' ∧
        Balanced text.toList) ∧
    (∀ name t, PlotMode.implicit.bindings.lookupOverride name = some t →
      (∀ s, Piece.text s ∈ t.pieces →
        ¬ "--".toList <:+: s.toList ∧ s.toList.getLast? ≠ some '-') ∧
      Balanced (t.render []).toList) ∧
    compile (.application "Equal"
        [.application "Subtract" [.identifier "x", .application "Subtract" [.identifier "y",
          .identifier "t"]],
         .application "Max" [.identifier "z", .identifier "Pi",
          .application "Multiply" [.identifier "x", .identifier "y"]]])
      PlotMode.implicit.bindings =
      .ok "((pos.x - (pos.y - time())) - max(max(pos.z, 3.1415926536), pos.x * pos.y))" ∧
    ¬ "--".toList <:+:
        "((pos.x - (pos.y - time())) - max(max(pos.z, 3.1415926536), pos.x * pos.y))".toList ∧
      Balanced
        "((pos.x - (pos.y - time())) - max(max(pos.z, 3.1415926536), pos.x * pos.y))".toList := by
  have hvarsAll : ∀ p ∈ PlotMode.implicit.bindings.vars.entries,
      ¬ "--".toList <:+: p.2.toList ∧ p.2.toList.getLast? ≠ some '-' ∧ Balanced p.2.toList := by
    decide
  have hoverAll : ∀ p ∈ PlotMode.implicit.bindings.overrides.entries,
      (∀ q ∈ p.2.pieces, q.Clean) ∧ Balanced (p.2.render []).toList := by
    decide
  have hvars : ∀ name text, PlotMode.implicit.bindings.lookupVar name = some text →
      ¬ "--".toList <:+: text.toList ∧ text.toList.getLast? ≠ some '-' ∧
        Balanced text.toList :=
    fun name text h => hvarsAll (name, text) (NameMap.mem_entries_of_find? h)
  have hover : ∀ name t, PlotMode.implicit.bindings.lookupOverride name = some t →
      (∀ s, Piece.text s ∈ t.pieces →
        ¬ "--".toList <:+: s.toList ∧ s.toList.getLast? ≠ some '-') ∧
      Balanced (t.render []).toList := by
    intro name t h
    obtain ⟨hclean, hbal⟩ := hoverAll (name, t) (NameMap.mem_entries_of_find? h)
    refine ⟨fun s hs => ?_, hbal⟩
    have hs' : Closed s.toList := hclean _ hs
    rw [decrement_toList]
    exact ⟨(noDecrement_iff _).1 hs'.noDecrement, hs'.last⟩
  have hc : compile (.application "Equal"
        [.application "Subtract" [.identifier "x", .application "Subtract" [.identifier "y",
          .identifier "t"]],
         .application "Max" [.identifier "z", .identifier "Pi",
          .application "Multiply" [.identifier "x", .identifier "y"]]])
      PlotMode.implicit.bindings =
      .ok "((pos.x - (pos.y - time())) - max(max(pos.z, 3.1415926536), pos.x * pos.y))" := by
    rfl
  exact ⟨hvars, hover, hc, compile_lexically_clean _ _ hvars hover hc⟩

end FormulaShader
