import Mathlib
import FormulaShader.Binary.Single

/-!
# Doubling a single

`Binary32.double` rounds the exact `2x` to the single format. The exact double of a finite
single is again a value of the format: a normal keeps its mantissa and moves its exponent up
by one, a subnormal doubles its mantissa at the smallest exponent. So the rounding loses
nothing, and the only way out of the finite values is an exponent past the largest, `104`,
where the double overflows to infinity. That happens exactly for the singles above half the
largest finite single, `(2^24 - 1) · 2^104`.

The rounding is followed through `floorLog2Ratio` and `roundHalfEven` on exact ratios: the
binary logarithm of the ratio is the one of the value, and at the exponent it fixes the value
is a whole multiple of the quantum.

Results:
* `BinaryFormat.floorLog2Ratio_spec`, `BinaryFormat.floorLog2Ratio_eq`: the binary logarithm
  of a ratio.
* `BinaryFormat.roundHalfEven_of_value`: at the quantum `2^Q` a ratio equal to `M · 2^Q` keeps
  the mantissa `M`.
* `BinaryFormat.roundRatio_binary32_exact`: rounding a value the format holds gives its bits,
  or the infinity of its sign past the largest exponent.
* `BinaryFormat.binary32_decode_finite`: the mantissa and exponent ranges of finite singles.
* `Binary32.value_largest`, `Binary32.magnitude_le_largest`: the largest finite single.
* `Binary32.double_isFinite_iff`: a double is finite exactly when the single is finite and at
  most half the largest single in magnitude.
-/

namespace FormulaShader

namespace BinaryFormat

theorem binary32_fractionBits : binary32.fractionBits = 23 := rfl
theorem binary32_minQuantum : binary32.minQuantum = -149 := rfl
theorem binary32_maxQuantum : binary32.maxQuantum = 104 := rfl
theorem binary32_precision : binary32.precision = 24 := rfl
theorem binary32_signBit : binary32.signBit = 31 := rfl

/-! ## The binary logarithm of a ratio -/

theorem two_zpow_natCast (n : Nat) : ((2 ^ n : Nat) : ℚ) = (2 : ℚ) ^ (n : Int) := by
  push_cast
  rfl

theorem ratioBelowPow2_iff {num den : Nat} (hden : 0 < den) (k : Int) :
    ratioBelowPow2 num den k = true ↔ (num : ℚ) / den < 2 ^ k := by
  have hd : (0 : ℚ) < den := by exact_mod_cast hden
  unfold ratioBelowPow2
  split
  · rename_i hk
    rw [decide_eq_true_iff, div_lt_iff₀ hd, Nat.pow_eq, ← Nat.cast_lt (α := ℚ)]
    push_cast
    rw [← zpow_natCast, Int.toNat_of_nonneg hk, mul_comm]
  · rename_i hk
    have hk' : k = -((-k).toNat : Int) := by omega
    rw [decide_eq_true_iff, Nat.pow_eq, ← Nat.cast_lt (α := ℚ), hk', zpow_neg, zpow_natCast,
      Int.neg_neg, Int.toNat_natCast]
    push_cast
    rw [div_lt_iff₀ hd, inv_mul_eq_div, lt_div_iff₀ (by positivity)]

theorem log2_bounds {n : Nat} (hn : n ≠ 0) :
    (2 : ℚ) ^ (n.log2 : Int) ≤ n ∧ (n : ℚ) < 2 ^ ((n.log2 : Int) + 1) := by
  have hlo : ((2 ^ n.log2 : Nat) : ℚ) ≤ n := by exact_mod_cast Nat.log2_self_le hn
  have hhi : (n : ℚ) < ((2 ^ (n.log2 + 1) : Nat) : ℚ) := by exact_mod_cast Nat.lt_log2_self
  rw [two_zpow_natCast] at hlo hhi
  push_cast at hhi
  exact ⟨hlo, hhi⟩

/-- `floorLog2Ratio` is `⌊log₂ (num / den)⌋`: the difference of the bit lengths is off by at
most one, and the test settles which. -/
theorem floorLog2Ratio_spec {num den : Nat} (hnum : num ≠ 0) (hden : den ≠ 0) :
    (2 : ℚ) ^ floorLog2Ratio num den ≤ num / den ∧
      (num : ℚ) / den < 2 ^ (floorLog2Ratio num den + 1) := by
  have hd : (0 : ℚ) < den := by exact_mod_cast Nat.pos_of_ne_zero hden
  obtain ⟨h1, h2⟩ := log2_bounds hnum
  obtain ⟨h3, h4⟩ := log2_bounds hden
  have hdef : floorLog2Ratio num den =
      if ratioBelowPow2 num den ((num.log2 : Int) - den.log2) then (num.log2 : Int) - den.log2 - 1
      else (num.log2 : Int) - den.log2 := rfl
  rw [hdef]
  generalize (num.log2 : Int) = a at h1 h2 ⊢
  generalize (den.log2 : Int) = b at h3 h4 ⊢
  -- the ratio lies strictly between `2^(a - b - 1)` and `2^(a - b + 1)`
  have lo : (2 : ℚ) ^ (a - b - 1) < num / den := by
    rw [lt_div_iff₀ hd]
    calc (2 : ℚ) ^ (a - b - 1) * den < 2 ^ (a - b - 1) * 2 ^ (b + 1) :=
          mul_lt_mul_of_pos_left h4 (by positivity)
      _ = 2 ^ a := by rw [← zpow_add₀ two_ne_zero]; congr 1; ring
      _ ≤ num := h1
  have hi : (num : ℚ) / den < 2 ^ (a - b + 1) := by
    rw [div_lt_iff₀ hd]
    calc (num : ℚ) < 2 ^ (a + 1) := h2
      _ = 2 ^ (a - b + 1) * 2 ^ b := by rw [← zpow_add₀ two_ne_zero]; congr 1; ring
      _ ≤ 2 ^ (a - b + 1) * den := mul_le_mul_of_nonneg_left h3 (by positivity)
  split
  · rename_i hbelow
    rw [ratioBelowPow2_iff (Nat.pos_of_ne_zero hden)] at hbelow
    exact ⟨lo.le, by simpa using hbelow⟩
  · rename_i hbelow
    rw [ratioBelowPow2_iff (Nat.pos_of_ne_zero hden)] at hbelow
    exact ⟨not_lt.1 hbelow, hi⟩

/-- A ratio between `2^L` and `2^(L+1)` has `L` as its binary logarithm. -/
theorem floorLog2Ratio_eq {num den : Nat} {L : Int} (hnum : num ≠ 0) (hden : den ≠ 0)
    (hlo : (2 : ℚ) ^ L ≤ num / den) (hhi : (num : ℚ) / den < 2 ^ (L + 1)) :
    floorLog2Ratio num den = L := by
  obtain ⟨h1, h2⟩ := floorLog2Ratio_spec hnum hden
  have hle : floorLog2Ratio num den < L + 1 :=
    (zpow_lt_zpow_iff_right₀ one_lt_two).1 (h1.trans_lt hhi)
  have hge : L < floorLog2Ratio num den + 1 :=
    (zpow_lt_zpow_iff_right₀ one_lt_two).1 (hlo.trans_lt h2)
  omega

/-! ## Rounding a value the format holds -/

theorem roundHalfEven_mul (n : Nat) {d : Nat} (hd : 0 < d) : roundHalfEven (n * d) d = n := by
  simp only [roundHalfEven, Nat.mul_div_cancel n hd, Nat.mul_mod_left]
  rw [if_neg (by omega)]

section ValueRatio

variable {num den M : Nat} {Q : Int}

theorem num_ne_zero_of_value (hM : M ≠ 0) (hval : (num : ℚ) / den = M * 2 ^ Q) : num ≠ 0 := by
  rintro rfl
  have hne : (M : ℚ) * 2 ^ Q ≠ 0 := mul_ne_zero (by exact_mod_cast hM) (by positivity)
  rw [← hval, Nat.cast_zero, zero_div] at hne
  exact hne rfl

/-- The binary logarithm of a ratio equal to `M · 2^Q` is the mantissa's, moved by `Q`. -/
theorem floorLog2Ratio_of_value (hden : den ≠ 0) (hM : M ≠ 0)
    (hval : (num : ℚ) / den = M * 2 ^ Q) : floorLog2Ratio num den = (M.log2 : Int) + Q := by
  obtain ⟨h1, h2⟩ := log2_bounds hM
  refine floorLog2Ratio_eq (num_ne_zero_of_value hM hval) hden ?_ ?_
  · rw [hval, zpow_add₀ two_ne_zero]
    exact mul_le_mul_of_nonneg_right h1 (by positivity)
  · rw [hval, add_right_comm, zpow_add₀ two_ne_zero]
    exact mul_lt_mul_of_pos_right h2 (by positivity)

/-- At the exponent `Q` a ratio equal to `M · 2^Q` is a whole multiple of the quantum, so
rounding its mantissa gives `M` exactly. -/
theorem roundHalfEven_of_value (hden : den ≠ 0) (hval : (num : ℚ) / den = M * 2 ^ Q) :
    (if 0 ≤ Q then roundHalfEven num (den * Nat.pow 2 Q.toNat)
      else roundHalfEven (num * Nat.pow 2 (-Q).toNat) den) = M := by
  have hnumQ : (num : ℚ) = M * 2 ^ Q * den := (div_eq_iff (by exact_mod_cast hden)).1 hval
  split
  · rename_i hQ0
    have hpow : ((2 ^ Q.toNat : Nat) : ℚ) = 2 ^ Q := by
      rw [two_zpow_natCast, Int.toNat_of_nonneg hQ0]
    have hnum : num = M * (den * 2 ^ Q.toNat) := by
      have h : (num : ℚ) = ((M * (den * 2 ^ Q.toNat) : Nat) : ℚ) := by
        rw [Nat.cast_mul, Nat.cast_mul, hpow, hnumQ]
        ring
      exact_mod_cast h
    rw [Nat.pow_eq, hnum]
    exact roundHalfEven_mul M (by positivity)
  · rename_i hQ0
    have hpow : (2 : ℚ) ^ Q * ((2 ^ (-Q).toNat : Nat) : ℚ) = 1 := by
      rw [two_zpow_natCast, Int.toNat_of_nonneg (by omega), ← zpow_add₀ two_ne_zero]
      simp
    have hnum : num * 2 ^ (-Q).toNat = M * den := by
      have h : ((num * 2 ^ (-Q).toNat : Nat) : ℚ) = ((M * den : Nat) : ℚ) := by
        rw [Nat.cast_mul, Nat.cast_mul, hnumQ]
        linear_combination (M * den : ℚ) * hpow
      exact_mod_cast h
    rw [Nat.pow_eq, hnum]
    exact roundHalfEven_mul M (Nat.pos_of_ne_zero hden)

/-- Rounding a ratio that is already a value of the single format, `M · 2^Q` with a mantissa
of 24 bits that is normal or at the smallest exponent, gives that value's bits, or the
infinity of its sign when the exponent is past the largest. -/
theorem roundRatio_binary32_exact (s : Bool) (hden : den ≠ 0)
    (hM : M ≠ 0) (hMlt : M < 2 ^ 24) (hnorm : 2 ^ 23 ≤ M ∨ Q = -149) (hQ : -149 ≤ Q)
    (hval : (num : ℚ) / den = M * 2 ^ Q) :
    binary32.roundRatio s num den =
      if 104 < Q then binary32.infinityBits s else binary32.pack s M Q := by
  have hlogM : M.log2 < 24 := (Nat.log2_lt hM).2 hMlt
  have hnormLog : M.log2 = 23 ∨ Q = -149 := by
    rcases hnorm with h | h
    · exact .inl (by have := (Nat.le_log2 hM).2 h; omega)
    · exact .inr h
  -- a 24-bit mantissa puts the quantum at `Q`, the subnormal one included
  have hq : max (floorLog2Ratio num den - binary32.fractionBits) binary32.minQuantum = Q := by
    rw [floorLog2Ratio_of_value hden hM hval, binary32_fractionBits, binary32_minQuantum]
    omega
  have hcarry : M ≠ Nat.pow 2 binary32.precision := by
    rw [binary32_precision, Nat.pow_eq]
    omega
  simp only [roundRatio, num_ne_zero_of_value hM hval, hden, or_self, if_false, hq,
    roundHalfEven_of_value hden hval, hcarry, binary32_maxQuantum]

end ValueRatio

theorem roundScaled_eq_roundRatio (f : BinaryFormat) (s : Bool) (m : Nat) (k : Int) :
    ∃ num den : Nat, den ≠ 0 ∧ (num : ℚ) / den = m * 2 ^ k ∧
      f.roundScaled s m k = f.roundRatio s num den := by
  unfold roundScaled
  split
  · rename_i hk
    refine ⟨m * Nat.pow 2 k.toNat, 1, one_ne_zero, ?_, rfl⟩
    rw [Nat.pow_eq, Nat.cast_one, div_one, Nat.cast_mul, two_zpow_natCast,
      Int.toNat_of_nonneg hk]
  · rename_i hk
    refine ⟨m, Nat.pow 2 (-k).toNat, by simp, ?_, rfl⟩
    rw [Nat.pow_eq, two_zpow_natCast, Int.toNat_of_nonneg (by omega), zpow_neg, div_eq_mul_inv,
      inv_inv]

theorem roundScaled_zero (f : BinaryFormat) (s : Bool) (k : Int) :
    f.roundScaled s 0 k = f.signPart s := by
  unfold roundScaled
  split <;> simp [roundRatio]

theorem binary32_decode (n : Nat) : binary32.decode n =
    if n / 2 ^ 23 % 2 ^ 8 = 255 then (if n % 2 ^ 23 = 0 then .infinite (n.testBit 31) else .nan)
    else if n / 2 ^ 23 % 2 ^ 8 = 0 then .finite (n.testBit 31) (n % 2 ^ 23) (-149)
    else .finite (n.testBit 31) (n % 2 ^ 23 + 2 ^ 23) (((n / 2 ^ 23 % 2 ^ 8 : Nat) : Int) - 150) := by
  rw [show ((n / 2 ^ 23 % 2 ^ 8 : Nat) : Int) - 150 = ((n / 2 ^ 23 % 2 ^ 8 : Nat) : Int) + -149 - 1 by omega]
  rfl
theorem binary32_pack (s : Bool) (M : Nat) (Q : Int) : binary32.pack s M Q =
    if M < 2 ^ 23 then binary32.signPart s + M
    else binary32.signPart s + (Q + 150).toNat * 2 ^ 23 + (M - 2 ^ 23) := by
  rw [show Q + 150 = Q - -149 + 1 by omega]
  rfl

/-- The finite values of the single format: a mantissa below `2^24` that is normal unless the
exponent is the smallest, `-149`, and an exponent at most `104`. -/
theorem binary32_decode_finite {n : Nat} {s : Bool} {m : Nat} {e : Int}
    (h : binary32.decode n = .finite s m e) :
    m < 2 ^ 24 ∧ -149 ≤ e ∧ e ≤ 104 ∧ (2 ^ 23 ≤ m ∨ e = -149) := by
  have hf : n % 2 ^ 23 < 2 ^ 23 := Nat.mod_lt _ (by decide)
  have hb : n / 2 ^ 23 % 2 ^ 8 < 2 ^ 8 := Nat.mod_lt _ (by decide)
  rw [binary32_decode] at h
  split_ifs at h with hmax hzero
  · -- a subnormal keeps the smallest exponent
    cases h
    omega
  · -- a normal gets its hidden bit
    cases h
    omega

end BinaryFormat

namespace Binary32

open BinaryFormat

/-- A bit pattern is finite unless its exponent field is all ones. -/
theorem isFinite_ofBits {n : Nat} (hn : n < 2 ^ 32) :
    (ofBits n).isFinite = true ↔ n / 2 ^ 23 % 2 ^ 8 ≠ 255 := by
  have hbits : (ofBits n).bits.toNat = n := UInt32.toNat_ofNat_of_lt' hn
  rw [isFinite, value, hbits, binary32_decode]
  split_ifs <;> simp_all

theorem signPart_cases (s : Bool) :
    binary32.signPart s = 0 ∨ binary32.signPart s = 2 ^ 31 := by
  cases s <;> simp [signPart, binary32_signBit]

theorem isFinite_pack (s : Bool) {M : Nat} {Q : Int} (hM : M < 2 ^ 24) (hQ : -149 ≤ Q)
    (hQ' : Q ≤ 104) : (ofBits (binary32.pack s M Q)).isFinite = true := by
  have hs := signPart_cases s
  rw [binary32_pack]
  split_ifs
  · -- a subnormal: the exponent field stays zero
    rw [isFinite_ofBits (by omega)]
    omega
  · -- a normal: the exponent field is at most 254
    rw [isFinite_ofBits (by omega)]
    omega

theorem not_isFinite_infinity (s : Bool) : (ofBits (binary32.infinityBits s)).isFinite = false := by
  cases s <;> rfl

theorem isFinite_signPart (s : Bool) : (ofBits (binary32.signPart s)).isFinite = true := by
  cases s <;> rfl

/-! ## Doubling -/

theorem double_of_finite {x : Binary32} {s : Bool} {m : Nat} {e : Int}
    (hx : x.value = .finite s m e) : x.double = ofBits (binary32.roundScaled s m (e + 1)) := by
  rw [double, hx]

/-- Doubling a finite single stays finite exactly when its exponent is at most `103`: the
exact double `m · 2^(e+1)` is a value of the format until the exponent passes `104`. -/
theorem double_isFinite_iff_exponent {x : Binary32} {s : Bool} {m : Nat} {e : Int}
    (hx : x.value = .finite s m e) : x.double.isFinite = true ↔ e ≤ 103 := by
  obtain ⟨hm, he, he', hnorm⟩ := binary32_decode_finite hx
  rw [double_of_finite hx]
  by_cases hm0 : m = 0
  · -- a zero doubles to the zero of its sign
    subst hm0
    rw [roundScaled_zero, isFinite_signPart]
    exact iff_of_true rfl (by omega)
  obtain ⟨num, den, hden, hval, hround⟩ := roundScaled_eq_roundRatio binary32 s m (e + 1)
  rw [hround]
  rcases Nat.lt_or_ge m (2 ^ 23) with hsub | hnormal
  · -- below the normals the double is `2m · 2^-149`, a subnormal or the smallest normals
    have he149 : e = -149 := by omega
    have hval' : (num : ℚ) / den = ((2 * m : Nat) : ℚ) * 2 ^ (-149 : Int) := by
      rw [hval, he149, show (-149 + 1 : Int) = 1 + -149 by norm_num, zpow_add₀ two_ne_zero]
      push_cast
      ring
    rw [roundRatio_binary32_exact s hden (by omega) (by omega) (.inr rfl) le_rfl hval',
      if_neg (by norm_num), isFinite_pack s (by omega) le_rfl (by norm_num)]
    exact iff_of_true rfl (by omega)
  · -- a normal keeps its mantissa and moves its exponent up by one
    rw [roundRatio_binary32_exact s hden hm0 hm (.inl hnormal) (by omega) hval]
    split_ifs with hover
    · rw [not_isFinite_infinity]
      exact iff_of_false Bool.false_ne_true (by omega)
    · rw [isFinite_pack s hm (by omega) (by omega)]
      exact iff_of_true rfl (by omega)

/-- The largest finite single, `(2^24 - 1) · 2^104`, with all bits of its exponent field set
but the last and all bits of its fraction field. -/
theorem value_largest : (ofBits 0x7F7FFFFF).value = .finite false (2 ^ 24 - 1) 104 := by
  decide

/-- A mantissa below `2^24` at an exponent of at most `k` is at most the largest mantissa at
`k`. -/
theorem magnitude_le_of_exponent_le {m : Nat} {e k : Int} (hm : m < 2 ^ 24) (he : e ≤ k) :
    (m : ℚ) * 2 ^ e ≤ (2 ^ 24 - 1) * 2 ^ k := by
  have hm' : (m : ℚ) + 1 ≤ 2 ^ 24 := by exact_mod_cast hm
  have hpow : (2 : ℚ) ^ e ≤ 2 ^ k := zpow_le_zpow_right₀ one_le_two he
  exact mul_le_mul (by linarith) hpow (by positivity) (by norm_num)

/-- Every finite single is at most the largest in magnitude. -/
theorem magnitude_le_largest {x : Binary32} {s : Bool} {m : Nat} {e : Int}
    (hx : x.value = .finite s m e) : (m : ℚ) * 2 ^ e ≤ (2 ^ 24 - 1) * 2 ^ (104 : Int) := by
  obtain ⟨hm, -, he', -⟩ := binary32_decode_finite hx
  exact magnitude_le_of_exponent_le hm he'

/-- A finite single has an exponent of at most `103` exactly when it is at most half the
largest single in magnitude: from `104` on the mantissa is normal, and `2^23 · 2^104` is past
that half. -/
theorem exponent_le_iff_half_largest {x : Binary32} {s : Bool} {m : Nat} {e : Int}
    (hx : x.value = .finite s m e) :
    e ≤ 103 ↔ (m : ℚ) * 2 ^ e ≤ (2 ^ 24 - 1) * 2 ^ (104 : Int) / 2 := by
  obtain ⟨hm, -, he', hnorm⟩ := binary32_decode_finite hx
  have hhalf : ((2 : ℚ) ^ 24 - 1) * 2 ^ (104 : Int) / 2 = (2 ^ 24 - 1) * 2 ^ (103 : Int) := by
    norm_num
  rw [hhalf]
  constructor
  · exact magnitude_le_of_exponent_le hm
  · intro hle
    by_contra h104
    have he104 : e = 104 := by omega
    have hnormal : (2 : ℚ) ^ 23 ≤ m := by exact_mod_cast (show 2 ^ 23 ≤ m by omega)
    subst he104
    have hpast : (2 : ℚ) ^ 23 * 2 ^ (104 : Int) ≤ m * 2 ^ (104 : Int) :=
      mul_le_mul_of_nonneg_right hnormal (by positivity)
    norm_num at hle hpast
    linarith

/-- Doubling gives a finite single exactly when the single is finite and at most half the
largest single in magnitude; NaN and the infinities double to themselves. -/
theorem double_isFinite_iff (x : Binary32) :
    x.double.isFinite = true ↔ ∃ s m e, x.value = .finite s m e ∧
      (m : ℚ) * 2 ^ e ≤ (2 ^ 24 - 1) * 2 ^ (104 : Int) / 2 := by
  cases hv : x.value with
  | nan => simp [double, isFinite, hv]
  | infinite negative => simp [double, isFinite, hv]
  | finite negative m e =>
    rw [double_isFinite_iff_exponent hv, exponent_le_iff_half_largest hv]
    simp

theorem isFinite_of_double {x : Binary32} (h : x.double.isFinite = true) : x.isFinite = true := by
  obtain ⟨s, m, e, hv, -⟩ := (double_isFinite_iff x).1 h
  simp [isFinite, hv]

end Binary32
end FormulaShader
