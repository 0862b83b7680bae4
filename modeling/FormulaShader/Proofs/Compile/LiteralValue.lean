import Mathlib
import FormulaShader.Compile.Literal
import FormulaShader.Proofs.Wgsl.Term

/-!
# What a float literal reads as

A finite single is written as the decimal it stands for: its exact integer and `.0` when it
is integral, its shortest decimal in positional notation otherwise, with a minus sign in front
when its sign bit is set. Read back as a shader expression, that text is one number token,
or a minus sign and one number token, and its value is exactly that decimal.

Results:
* `Decimal.value`, `Binary32.writtenValue`: the decimal a single is written as.
* `Decimal.positional_value`: positional notation is a numeral with the decimal's value, in
  each of its layouts (`numeralOf_leading_point`, `numeralOf_trailing_zeros`,
  `numeralOf_inner_point`).
* `lex_numeral`: a numeral is one token.
* `Binary32.literalText_reads`: the text of a finite literal is the tokens of a well-formed
  tree, a number or a negated number, whose value is the literal's decimal.
-/

namespace FormulaShader

open Wgsl

/-- The value of `digits · 10^exponent`. -/
def Decimal.value (d : Decimal) : ℚ := d.digits * (10 : ℚ) ^ d.exponent

/-- The decimal a finite single is written as: its exact integer when it is integral, its
shortest decimal otherwise, with its sign. -/
def Binary32.writtenValue (x : Binary32) : ℚ :=
  match x.value with
  | .finite negative m e =>
    (if negative then -1 else 1) *
      if x.isIntegral then (integralPart m e : ℚ)
      else (shortestDecimal BinaryFormat.binary32 .up m e).value
  | _ => 0

/-! ## Numerals -/

/-- Text that is read as one number token worth `v`. -/
structure NumeralOf (s : List Char) (v : ℚ) : Prop where
  lex : lex s = [.number s]
  valid : validNumeral s = true
  value : numeralValue s = v

/-- A numeral is read as one number token. -/
theorem lex_numeral {c : Char} {cs : List Char} (hc : c.isDigit)
    (hcs : ∀ x ∈ cs, x.isDigit ∨ x = '.') : lex (c :: cs) = [.number (c :: cs)] := by
  -- a number token takes every digit and point after it
  have hrun : ∀ (acc : List Char) (l : List Char), (∀ x ∈ l, x.isDigit ∨ x = '.') →
      lexFrom (.number acc) l = [.number (acc ++ l)] := by
    intro acc l hl
    induction l generalizing acc with
    | nil => simp [lexFrom, Pending.flush]
    | cons x l ih =>
      have hx : (isIdentChar x || x == '.') = true := by
        rcases hl x (by simp) with hd | rfl
        · simp [isIdentChar, Char.isAlphanum, hd]
        · simp
      rw [lexFrom, Pending.extend, if_pos hx]
      dsimp only
      rw [ih (acc ++ [x]) fun y hy => hl y (by simp [hy])]
      simp
  have hstart : Pending.start c = .number [c] := by
    simp [Pending.start, isWhitespace_of_isDigit hc, isIdentStart_of_isDigit hc, hc]
  rw [lex, lexFrom]
  have hidle : Pending.idle.extend c = none := rfl
  rw [hidle]
  simp only [Pending.flush, List.nil_append, hstart]
  exact hrun [c] cs hcs

section Numerals

variable {w f : List Char}

theorem ne_point_of_isDigit {c : Char} (h : c.isDigit = true) : (c != '.') = true := by
  simp only [bne_iff_ne, ne_eq]
  rintro rfl
  exact absurd h (by decide)

theorem numeralOf_whole (hw : ∀ c ∈ w, c.isDigit) (hne : w ≠ []) :
    NumeralOf w (Nat.ofDigitChars 10 w 0) := by
  have hnp : ∀ c ∈ w, (c != '.') = true := fun c hc => ne_point_of_isDigit (hw c hc)
  obtain ⟨c, cs, rfl⟩ := List.exists_cons_of_ne_nil hne
  refine ⟨lex_numeral (hw c (by simp)) fun x hx => .inl (hw x (by simp [hx])), ?_, ?_⟩
  · have hcount : (c :: cs).count '.' = 0 :=
      List.count_eq_zero.2 fun h => by simpa using hnp _ h
    simp [validNumeral, hw c (by simp), hcount]
    intro x hx
    exact .inl (hw x (by simp [hx]))
  · rw [numeralValue, List.filter_eq_self.2 hnp, List.dropWhile_eq_nil_iff.2 hnp]
    simp

/-- Digits, a point and more digits: the digits read as one number, scaled down by the
digits after the point. -/
theorem numeralOf_point (hw : ∀ c ∈ w, c.isDigit) (hne : w ≠ []) (hf : ∀ c ∈ f, c.isDigit) :
    NumeralOf (w ++ '.' :: f) ((Nat.ofDigitChars 10 (w ++ f) 0 : ℚ) / 10 ^ f.length) := by
  have hnp : ∀ l : List Char, (∀ c ∈ l, c.isDigit) → ∀ c ∈ l, (c != '.') = true :=
    fun l hl c hc => ne_point_of_isDigit (hl c hc)
  obtain ⟨c, cs, rfl⟩ := List.exists_cons_of_ne_nil hne
  refine ⟨?_, ?_, ?_⟩
  · rw [List.cons_append]
    refine lex_numeral (hw c (by simp)) fun x hx => ?_
    rcases List.mem_append.1 hx with hx | hx
    · exact .inl (hw x (by simp [hx]))
    · rcases List.mem_cons.1 hx with rfl | hx
      · exact .inr rfl
      · exact .inl (hf x hx)
  · have hcw : (c :: cs).count '.' = 0 :=
      List.count_eq_zero.2 fun h => by simpa using hnp _ hw _ h
    have hcf : f.count '.' = 0 := List.count_eq_zero.2 fun h => by simpa using hnp _ hf _ h
    have hcount : ((c :: cs) ++ '.' :: f).count '.' = 1 := by
      rw [List.count_append, hcw, List.count_cons_self, hcf]
    have hall : ((c :: cs) ++ '.' :: f).all (fun x => x.isDigit || x == '.') = true := by
      simp only [List.all_eq_true, List.mem_append, List.mem_cons, Bool.or_eq_true, beq_iff_eq]
      rintro x ((rfl | hx) | rfl | hx)
      · exact .inl (hw x (by simp))
      · exact .inl (hw x (by simp [hx]))
      · exact .inr rfl
      · exact .inl (hf x hx)
    have hhead : ((c :: cs) ++ '.' :: f).head?.any Char.isDigit = true := by
      simp [hw c (by simp)]
    simp only [validNumeral, hcount, hall, hhead]
    decide
  · rw [numeralValue, List.filter_append, List.filter_eq_self.2 (hnp _ hw),
      List.filter_cons_of_neg (by simp), List.filter_eq_self.2 (hnp _ hf),
      List.dropWhile_append_of_pos (hnp _ hw)]
    simp

end Numerals

/-! ## Positional notation -/

namespace Decimal

theorem digitText_digits (d : Decimal) : ∀ c ∈ d.digitText.toList, c.isDigit := by
  intro c hc
  rw [digitText, Nat.toString_eq_ofList_toDigits, String.toList_ofList] at hc
  exact Nat.isDigit_of_mem_toDigits (by decide) (by decide) hc

theorem digitText_ne_nil (d : Decimal) : d.digitText.toList ≠ [] := by
  rw [digitText, Nat.toString_eq_ofList_toDigits, String.toList_ofList]
  exact Nat.toDigits_ne_nil

theorem ofDigitChars_digitText (d : Decimal) : Nat.ofDigitChars 10 d.digitText.toList 0 = d.digits := by
  rw [digitText, Nat.toString_eq_ofList_toDigits, String.toList_ofList]
  exact Nat.ofDigitChars_toDigits (by decide) (by decide)

theorem zeros_digits (k : Nat) : ∀ c ∈ List.replicate k '0', c.isDigit := by
  intro c hc
  rw [List.eq_of_mem_replicate hc]
  decide

theorem point_eq (d : Decimal) : d.point = (d.digitText.toList.length : Int) + d.exponent := by
  rw [point, String.length_toList]

/-! The three layouts of a nonzero decimal, by where the point falls. -/

/-- `0.`, zeros, then the digits: the point before the digits. -/
theorem numeralOf_leading_point (d : Decimal) (hp : d.point ≤ 0) :
    NumeralOf ("0" ++ "." ++ (zeros (-d.point).toNat ++ d.digitText)).toList d.value := by
  have h : NumeralOf (['0'] ++ '.' :: (List.replicate (-d.point).toNat '0' ++ d.digitText.toList))
      _ := numeralOf_point (by simp) (by simp) fun c hc => by
        rcases List.mem_append.1 hc with hc | hc
        · exact zeros_digits _ c hc
        · exact d.digitText_digits c hc
  have htext : ("0" ++ "." ++ (zeros (-d.point).toNat ++ d.digitText)).toList =
      ['0'] ++ '.' :: (List.replicate (-d.point).toNat '0' ++ d.digitText.toList) := by
    simp [zeros]
  rw [htext]
  refine ⟨h.lex, h.valid, ?_⟩
  rw [h.value, ← List.append_assoc, List.singleton_append, ← List.replicate_succ,
    Nat.ofDigitChars_append, Nat.ofDigitChars_replicate_zero, Nat.mul_zero,
    d.ofDigitChars_digitText, value, List.length_append, List.length_replicate]
  -- the digits sit `-point` places after the point, so the exponent is minus all of them
  have hpoint := d.point_eq
  rw [show d.exponent = -(((-d.point).toNat + d.digitText.toList.length : Nat) : Int) by omega,
    zpow_neg, zpow_natCast, div_eq_mul_inv]

/-- The digits, then zeros up to the point. -/
theorem numeralOf_trailing_zeros (d : Decimal) (hp : ¬d.point ≤ 0)
    (hn : d.digitText.length ≤ d.point.toNat) :
    NumeralOf (d.digitText ++ zeros (d.point.toNat - d.digitText.length)).toList d.value := by
  have h : NumeralOf (d.digitText.toList ++ List.replicate (d.point.toNat - d.digitText.length) '0')
      _ := numeralOf_whole (fun c hc => by
        rcases List.mem_append.1 hc with hc | hc
        · exact d.digitText_digits c hc
        · exact zeros_digits _ c hc) (by simp [d.digitText_ne_nil])
  have htext : (d.digitText ++ zeros (d.point.toNat - d.digitText.length)).toList =
      d.digitText.toList ++ List.replicate (d.point.toNat - d.digitText.length) '0' := by
    simp [zeros]
  rw [htext]
  refine ⟨h.lex, h.valid, ?_⟩
  rw [h.value, Nat.ofDigitChars_append, Nat.ofDigitChars_replicate_zero, d.ofDigitChars_digitText,
    value]
  have hpoint := d.point_eq
  rw [← String.length_toList] at hn
  rw [show d.exponent = ((d.point.toNat - d.digitText.length : Nat) : Int) by
    rw [← String.length_toList]; omega, zpow_natCast]
  push_cast
  ring

/-- The digits with the point among them. -/
theorem numeralOf_inner_point (d : Decimal) (hp : ¬d.point ≤ 0)
    (hn : ¬d.digitText.length ≤ d.point.toNat) :
    NumeralOf (String.ofList (d.digitText.toList.take d.point.toNat) ++ "." ++
      String.ofList (d.digitText.toList.drop d.point.toNat)).toList d.value := by
  rw [← String.length_toList] at hn
  have h : NumeralOf (d.digitText.toList.take d.point.toNat ++ '.' ::
      d.digitText.toList.drop d.point.toNat) _ := numeralOf_point
    (fun c hc => d.digitText_digits c (List.mem_of_mem_take hc))
    (by
      rw [ne_eq, List.take_eq_nil_iff, not_or]
      exact ⟨by omega, d.digitText_ne_nil⟩)
    (fun c hc => d.digitText_digits c (List.mem_of_mem_drop hc))
  have htext : (String.ofList (d.digitText.toList.take d.point.toNat) ++ "." ++
      String.ofList (d.digitText.toList.drop d.point.toNat)).toList =
      d.digitText.toList.take d.point.toNat ++ '.' :: d.digitText.toList.drop d.point.toNat := by
    simp
  rw [htext]
  refine ⟨h.lex, h.valid, ?_⟩
  rw [h.value, List.take_append_drop, d.ofDigitChars_digitText, value, List.length_drop]
  -- the digits after the point are the ones past `point`
  have he : d.exponent = -((d.digitText.toList.length - d.point.toNat : Nat) : Int) := by
    have hpoint := d.point_eq
    have htoNat : (d.point.toNat : Int) = d.point := Int.toNat_of_nonneg (by omega)
    omega
  rw [he, zpow_neg, zpow_natCast, div_eq_mul_inv]

/-- Positional notation with no digits forced after the point is a numeral worth the
decimal. -/
theorem positional_value (d : Decimal) : NumeralOf (d.positional 0).toList d.value := by
  simp only [positional, Nat.not_lt_zero, if_false, if_true, String.isEmpty_iff]
  by_cases h0 : d.digits = 0
  · -- zero is written `0`
    rw [if_pos h0]
    have h : NumeralOf ['0'] (Nat.ofDigitChars 10 ['0'] 0) := numeralOf_whole (by simp) (by simp)
    have hzero : Nat.ofDigitChars 10 ['0'] 0 = 0 := rfl
    rw [value, h0]
    simpa [hzero] using h
  rw [if_neg h0]
  by_cases hp : d.point ≤ 0
  · have hne : zeros (-d.point).toNat ++ d.digitText ≠ "" := by
      intro h
      apply d.digitText_ne_nil
      have := congrArg String.toList h
      simp only [String.toList_append, String.toList_empty, List.append_eq_nil_iff] at this
      exact this.2
    rw [if_pos hp, if_neg hne]
    exact d.numeralOf_leading_point hp
  rw [if_neg hp]
  by_cases hn : d.digitText.length ≤ d.point.toNat
  · rw [if_pos hn]
    exact d.numeralOf_trailing_zeros hp hn
  · have hne : String.ofList (d.digitText.toList.drop d.point.toNat) ≠ "" := by
      intro h
      have hdrop : d.digitText.toList.drop d.point.toNat = [] := by
        simpa using congrArg String.toList h
      rw [List.drop_eq_nil_iff, String.length_toList] at hdrop
      exact hn hdrop
    rw [if_neg hn, if_neg hne]
    exact d.numeralOf_inner_point hp hn

end Decimal

/-! ## Literals -/

theorem Binary32.signBitSet_of_finite {x : Binary32} {negative : Bool} {m : Nat} {e : Int}
    (hv : x.value = .finite negative m e) : x.signBitSet = negative := by
  simp only [Binary32.value, BinaryFormat.decode] at hv
  split_ifs at hv
  all_goals cases hv
  all_goals rfl

/-- A numeral, or a minus sign and a numeral: a number, or a negated number, worth the
signed value. -/
theorem signed_reads {body : List Char} {v : ℚ} (h : NumeralOf body v) (negative : Bool) :
    ∃ t : Term, t.WF ∧ t.cat = (if negative then .unary else .atom) ∧
      lex ((if negative then "-" else "").toList ++ body) = t.tokens ∧
      ∀ {α : Type} [Field α] [LinearOrder α] (I : Interp α),
        t.eval I = (((if negative then -1 else 1) * v : ℚ) : α) := by
  have hnum : (Term.number body).WF := h.valid
  cases negative with
  | false =>
    refine ⟨.number body, hnum, rfl, ?_, fun I => ?_⟩
    · simp only [Bool.false_eq_true, if_false, String.toList_empty, List.nil_append]
      exact h.lex
    simp [Term.eval, h.value]
  | true =>
    -- the numeral starts with a digit, so the minus sign stands alone
    have hhead : body.head? ≠ some '-' := by
      intro hh
      have hvalid := h.valid
      simp only [validNumeral, hh, Bool.and_eq_true, Option.any_some] at hvalid
      exact absurd hvalid.1.1 (by decide)
    refine ⟨.neg (.number body), ⟨hnum, by simp [Term.cat, Precedence.rank]⟩, rfl, ?_, fun I => ?_⟩
    · simp only [if_true]
      rw [show "-".toList = ['-'] from rfl, List.singleton_append, lex_minus_cons hhead, h.lex]
      rfl
    · simp [Term.eval, h.value]

/-- The text of a finite literal is a number, or a negated number when the sign bit is set,
whose value is the decimal the single is written as. -/
theorem Binary32.literalText_reads (x : Binary32) (hx : x.isFinite) :
    ∃ t : Term, t.WF ∧ t.cat = (if x.signBitSet then .unary else .atom) ∧
      lex x.literalText.toList = t.tokens ∧
      ∀ {α : Type} [Field α] [LinearOrder α] (I : Interp α), t.eval I = (x.writtenValue : α) := by
  obtain ⟨negative, m, e, hv⟩ : ∃ negative m e, x.value = .finite negative m e := by
    unfold Binary32.isFinite at hx
    split at hx
    · exact ⟨_, _, _, ‹_›⟩
    · cases hx
  rw [signBitSet_of_finite hv]
  unfold Binary32.literalText Binary32.writtenValue
  rw [hv]
  dsimp only
  by_cases hint : x.isIntegral = true
  · -- an integral value: its integer and `.0`
    simp only [hint, if_true]
    have hdigits : ∀ c ∈ (toString (integralPart m e)).toList, c.isDigit := by
      intro c hc
      rw [Nat.toString_eq_ofList_toDigits, String.toList_ofList] at hc
      exact Nat.isDigit_of_mem_toDigits (by decide) (by decide) hc
    have hbody : NumeralOf ((toString (integralPart m e)).toList ++ '.' :: ['0'])
        (integralPart m e) := by
      have h := numeralOf_point hdigits (by
        rw [Nat.toString_eq_ofList_toDigits, String.toList_ofList]
        exact Nat.toDigits_ne_nil) (f := ['0']) (by simp)
      refine ⟨h.lex, h.valid, ?_⟩
      rw [h.value, Nat.ofDigitChars_append, Nat.toString_eq_ofList_toDigits, String.toList_ofList,
        Nat.ofDigitChars_toDigits (by decide) (by decide)]
      have hstep : Nat.ofDigitChars 10 ['0'] (integralPart m e) = 10 * integralPart m e := by
        simp [Nat.ofDigitChars_cons, Nat.ofDigitChars_nil]
      rw [hstep]
      push_cast
      simp
    obtain ⟨t, hwf, hcat, hlex, heval⟩ := signed_reads hbody negative
    refine ⟨t, hwf, hcat, ?_, heval⟩
    rw [← hlex]
    simp [String.toList_append]
  · -- any other value: its shortest decimal, positionally
    simp only [hint]
    obtain ⟨t, hwf, hcat, hlex, heval⟩ :=
      signed_reads (shortestDecimal BinaryFormat.binary32 .up m e).positional_value negative
    refine ⟨t, hwf, hcat, ?_, heval⟩
    rw [← hlex]
    simp [Binary32.format, FloatLayout.render, FloatLayout.place, FloatLayout.plain, hv,
      String.toList_append]

end FormulaShader
