import Mathlib
import FormulaShader.Binary.Double

/-!
# The fields of a double

A double's 64 bits are a sign bit, an 11-bit biased exponent and a 52-bit fraction. An
all-ones exponent holds the infinities and the NaNs, a zero exponent the subnormals (zeros
included) at the smallest exponent `-1074`, and any other exponent `b` a normal value
`(2^52 + fraction) · 2^(b - 1075)`. Every lemma about the bits of a double goes through
`value_cases`, which says this once.

An integral double of magnitude below `2^53` has an exponent between `-52` and `0`, so its
integer part `n` is its mantissa shifted right by `k ≤ 52` places, and rounding `n` back to a
double loses nothing.

Results:
* `value_cases`: what a double stands for, read off its fields.
* `bits_eq_fields`: the bits are the three fields side by side.
* `BinaryFormat.roundRatio_binary64_exact`: an integer whose shift is a normal mantissa
  rounds to exactly that double.
* `ofInt_truncate`: an integral nonzero double below `9 · 10^15` in magnitude is the double
  nearest to its integer part.
* `eq_infinity_of_not_finite`: a double that is neither finite nor a NaN is the infinity of
  its sign.
* `isZero_integral`: a zero of either sign is integral, small, and has integer part `0`.
-/

namespace FormulaShader

namespace BinaryFormat

theorem binary64_fractionBits : binary64.fractionBits = 52 := rfl
theorem binary64_exponentBits : binary64.exponentBits = 11 := rfl
theorem binary64_exponentMask : binary64.exponentMask = 2047 := rfl
theorem binary64_minQuantum : binary64.minQuantum = -1074 := rfl
theorem binary64_signBit : binary64.signBit = 63 := rfl
theorem binary64_precision : binary64.precision = 53 := rfl
theorem binary64_maxQuantum : binary64.maxQuantum = 971 := rfl

theorem signPart_binary64 (s : Bool) : binary64.signPart s = if s then 2 ^ 63 else 0 := by
  cases s <;> rfl

theorem roundHalfEven_one (x : Nat) : roundHalfEven x 1 = x := by
  simp [roundHalfEven, Nat.mod_one]

theorem floorLog2Ratio_one {n : Nat} (hn : n ≠ 0) : floorLog2Ratio n 1 = n.log2 := by
  have hle := Nat.log2_self_le hn
  have h1 : Nat.log2 1 = 0 := by decide
  simp [floorLog2Ratio, ratioBelowPow2, h1, Nat.not_lt.mpr hle]

/-- Rounding a natural number `n` to a double is exact when `n · 2^k` is a normal mantissa:
the bits are those of that mantissa with exponent `-k`. -/
theorem roundRatio_binary64_exact (s : Bool) {n k f : Nat} (hk : k ≤ 52) (hf : f < 2 ^ 52)
    (hm : n * 2 ^ k = f + 2 ^ 52) :
    binary64.roundRatio s n 1 = binary64.signPart s + (1075 - k) * 2 ^ 52 + f := by
  have hn : n ≠ 0 := by
    rintro rfl
    rw [Nat.zero_mul] at hm
    omega
  have hpow : 2 ^ k * 2 ^ (52 - k) = 2 ^ 52 := by
    rw [← Nat.pow_add, Nat.add_sub_cancel' hk]
  have hlog : n.log2 = 52 - k := by
    rw [Nat.log2_eq_iff hn]
    constructor
    · refine Nat.le_of_mul_le_mul_left ?_ (Nat.two_pow_pos k)
      rw [hpow, Nat.mul_comm, hm]
      omega
    · refine Nat.lt_of_mul_lt_mul_left (?_ : 2 ^ k * n < 2 ^ k * 2 ^ (52 - k + 1))
      rw [Nat.pow_succ, ← Nat.mul_assoc, hpow, Nat.mul_comm, hm]
      omega
  have hq : max (floorLog2Ratio n 1 - binary64.fractionBits) binary64.minQuantum = -(k : Int) := by
    rw [floorLog2Ratio_one hn, hlog, binary64_minQuantum, binary64_fractionBits]
    omega
  have hmant : (if 0 ≤ -(k : Int) then roundHalfEven n (1 * Nat.pow 2 (-(k : Int)).toNat)
      else roundHalfEven (n * Nat.pow 2 (-(-(k : Int))).toNat) 1) = f + 2 ^ 52 := by
    by_cases h0 : k = 0
    · subst h0
      rw [if_pos (by omega), Nat.cast_zero, Int.neg_zero, Int.toNat_zero, Nat.one_mul,
        roundHalfEven_one]
      rw [Nat.pow_zero, Nat.mul_one] at hm
      exact hm
    · rw [if_neg (by omega), roundHalfEven_one, Int.neg_neg, Int.toNat_natCast, Nat.pow_eq, hm]
  simp only [roundRatio, hn, Nat.one_ne_zero, or_self, if_false, hq, hmant, binary64_precision,
    binary64_maxQuantum]
  have hc : f + 2 ^ 52 ≠ Nat.pow 2 53 := by
    rw [Nat.pow_eq]
    omega
  have he : (-(k : Int) - binary64.minQuantum + 1).toNat = 1075 - k := by
    rw [binary64_minQuantum]
    omega
  simp only [hc, if_false]
  rw [if_neg (by omega), pack, binary64_fractionBits, he, Nat.pow_eq, if_neg (by omega)]
  omega

end BinaryFormat

namespace Binary64

open BinaryFormat

def exponentField (x : Binary64) : Nat := x.bits.toNat / 2 ^ 52 % 2 ^ 11

def fractionField (x : Binary64) : Nat := x.bits.toNat % 2 ^ 52

theorem fractionField_lt (x : Binary64) : x.fractionField < 2 ^ 52 :=
  Nat.mod_lt _ (Nat.two_pow_pos 52)

theorem exponentField_lt (x : Binary64) : x.exponentField < 2 ^ 11 :=
  Nat.mod_lt _ (Nat.two_pow_pos 11)

/-- The bits are the sign bit, the exponent field and the fraction field, side by side. -/
theorem bits_eq_fields (x : Binary64) : x.bits.toNat =
    binary64.signPart x.signBitSet + x.exponentField * 2 ^ 52 + x.fractionField := by
  have h := x.bits.toNat_lt
  simp only [exponentField, fractionField, signPart, signBitSet, binary64_signBit,
    Nat.testBit_eq_decide_div_mod_eq]
  split <;> simp_all [Nat.pow_eq] <;> omega

theorem ofBits_bits (x : Binary64) : ofBits x.bits.toNat = x := by
  simp [ofBits]

theorem isZero_of_finite {x : Binary64} {s : Bool} {m : Nat} {e : Int}
    (hv : x.value = .finite s m e) : x.isZero = (m == 0) := by
  rw [isZero, hv]
  cases m <;> rfl

/-- What a double stands for, read off its fields: an all-ones exponent is an infinity or a
NaN, a zero exponent a subnormal with the smallest exponent, any other a normal value with
its hidden bit. -/
theorem value_cases (x : Binary64) :
    (x.exponentField = 2047 ∧ x.fractionField = 0 ∧ x.value = .infinite x.signBitSet) ∨
    (x.exponentField = 2047 ∧ x.fractionField ≠ 0 ∧ x.value = .nan) ∨
    (x.exponentField = 0 ∧ x.value = .finite x.signBitSet x.fractionField (-1074)) ∨
    (x.exponentField ≠ 0 ∧ x.exponentField ≠ 2047 ∧
      x.value = .finite x.signBitSet (x.fractionField + 2 ^ 52) (x.exponentField - 1075)) := by
  rw [value, decode, signBitSet, binary64_fractionBits, binary64_exponentBits,
    binary64_exponentMask, binary64_minQuantum, binary64_signBit]
  by_cases h1 : x.exponentField = 2047
  · have h1' : x.bits.toNat / Nat.pow 2 52 % Nat.pow 2 11 = 2047 := h1
    rw [if_pos h1']
    by_cases h2 : x.fractionField = 0
    · have h2' : x.bits.toNat % Nat.pow 2 52 = 0 := h2
      exact .inl ⟨h1, h2, by rw [if_pos h2']⟩
    · have h2' : ¬ x.bits.toNat % Nat.pow 2 52 = 0 := h2
      exact .inr (.inl ⟨h1, h2, by rw [if_neg h2']⟩)
  · have h1' : ¬ x.bits.toNat / Nat.pow 2 52 % Nat.pow 2 11 = 2047 := h1
    rw [if_neg h1']
    by_cases h2 : x.exponentField = 0
    · have h2' : x.bits.toNat / Nat.pow 2 52 % Nat.pow 2 11 = 0 := h2
      exact .inr (.inr (.inl ⟨h2, by rw [if_pos h2']; rfl⟩))
    · have h2' : ¬ x.bits.toNat / Nat.pow 2 52 % Nat.pow 2 11 = 0 := h2
      refine .inr (.inr (.inr ⟨h2, h1, ?_⟩))
      rw [if_neg h2', BinaryValue.finite.injEq]
      refine ⟨rfl, rfl, ?_⟩
      simp only [exponentField, Nat.pow_eq]
      omega

/-- An integral double below `9 · 10^15` in magnitude that is not a zero is normal, with
exponent `-k` for some `k ≤ 52`: its integer part shifted left by `k` is its mantissa. -/
theorem integral_shift {x : Binary64} (hi : x.isIntegral) (hb : x.magnitudeBelow 9000000000000000 1)
    (hz : x.isZero = false) :
    ∃ k n, k ≤ 52 ∧ n * 2 ^ k = x.fractionField + 2 ^ 52 ∧ x.exponentField = 1075 - k ∧
      x.truncate = if x.signBitSet then -(n : Int) else n := by
  have hf := x.fractionField_lt
  rcases value_cases x with ⟨-, -, hv⟩ | ⟨-, -, hv⟩ | ⟨-, hv⟩ | ⟨h0, hmax, hv⟩
  · simp [isIntegral, hv] at hi
  · simp [isIntegral, hv] at hi
  · -- a subnormal is integral only when it is a zero
    have hz0 : x.fractionField ≠ 0 := by
      simpa [isZero_of_finite hv] using hz
    have hlt : ∀ k, 52 ≤ k → x.fractionField < Nat.pow 2 k := fun k hk =>
      Nat.lt_of_lt_of_le hf (Nat.pow_le_pow_right (by decide) hk)
    simp only [isIntegral, hv, Int.reduceNeg, Int.reduceLE, decide_false, Bool.false_or,
      beq_iff_eq] at hi
    rw [Nat.mod_eq_of_lt (hlt _ (by decide))] at hi
    exact absurd hi hz0
  · have he := x.exponentField_lt
    simp only [isIntegral, magnitudeBelow, truncate, hv] at hi hb ⊢
    by_cases hnn : 0 ≤ (x.exponentField : Int) - 1075
    · -- a non-negative exponent must be zero, or the value reaches `2^53`
      rw [if_pos hnn] at hb
      have hb' := of_decide_eq_true hb
      have h1075 : x.exponentField = 1075 := by
        apply Nat.le_antisymm _ (by omega)
        apply Nat.le_of_not_lt
        intro hgt
        have h2le : 2 ^ 1 ≤ 2 ^ ((x.exponentField : Int) - 1075).toNat :=
          Nat.pow_le_pow_right (by decide) (by omega)
        have := Nat.mul_le_mul_left (x.fractionField + 2 ^ 52) h2le
        simp only [Nat.pow_eq] at hb'
        omega
      refine ⟨0, x.fractionField + 2 ^ 52, by omega, by simp, by omega, ?_⟩
      simp [h1075]
    · -- a negative exponent `-k`: the mantissa is a multiple of `2^k`, so `k ≤ 52`
      rw [if_neg hnn]
      simp only [hnn, decide_false, Bool.false_or, beq_iff_eq] at hi
      have hk : (-((x.exponentField : Int) - 1075)).toNat = 1075 - x.exponentField := by
        omega
      rw [hk] at hi ⊢
      have hdvd := Nat.dvd_of_mod_eq_zero hi
      have hk52 : 1075 - x.exponentField ≤ 52 := by
        apply Nat.le_of_not_lt
        intro hgt
        have hle := Nat.le_of_dvd (by omega) hdvd
        have : 2 ^ 53 ≤ 2 ^ (1075 - x.exponentField) := Nat.pow_le_pow_right (by decide) hgt
        simp only [Nat.pow_eq] at hle this
        omega
      exact ⟨1075 - x.exponentField, (x.fractionField + 2 ^ 52) / 2 ^ (1075 - x.exponentField),
        hk52, Nat.div_mul_cancel hdvd, by omega, rfl⟩

/-- An integral double below `9 · 10^15` in magnitude that is not a zero is the double nearest
to its integer part. -/
theorem ofInt_truncate {x : Binary64} (hi : x.isIntegral)
    (hb : x.magnitudeBelow 9000000000000000 1) (hz : x.isZero = false) : ofInt x.truncate = x := by
  obtain ⟨k, n, hk, hm, he, ht⟩ := integral_shift hi hb hz
  have hn : n ≠ 0 := by
    rintro rfl
    rw [Nat.zero_mul] at hm
    omega
  have hsign : decide (x.truncate < 0) = x.signBitSet ∧ x.truncate.natAbs = n := by
    rw [ht]
    cases x.signBitSet with
    | false => simp
    | true => simpa using Nat.pos_of_ne_zero hn
  rw [ofInt, hsign.1, hsign.2, ofRatio, BinaryFormat.roundRatio_binary64_exact _ hk x.fractionField_lt hm, ← he,
    ← bits_eq_fields, ofBits_bits]

/-- A double that is neither finite nor a NaN is the infinity of its sign bit. -/
theorem eq_infinity_of_not_finite {x : Binary64} (hn : x.isNaN = false)
    (hf : x.isFinite = false) : x = infinity x.signBitSet := by
  rcases value_cases x with ⟨h1, h2, -⟩ | ⟨-, -, hv⟩ | ⟨-, hv⟩ | ⟨-, -, hv⟩
  · have hbits : binary64.infinityBits x.signBitSet = x.bits.toNat := by
      rw [bits_eq_fields x, h1, h2, infinityBits, binary64_exponentMask, binary64_fractionBits]
      simp only [Nat.pow_eq]
      omega
    rw [infinity, hbits, ofBits_bits]
  · simp [isNaN, hv] at hn
  · simp [isFinite, hv] at hf
  · simp [isFinite, hv] at hf

/-- A zero of either sign is integral, below every positive bound, and has integer part `0`. -/
theorem isZero_integral {x : Binary64} (hz : x.isZero) :
    x.isIntegral ∧ x.magnitudeBelow 9000000000000000 1 ∧ x.truncate = 0 := by
  rcases value_cases x with ⟨-, -, hv⟩ | ⟨-, -, hv⟩ | ⟨-, hv⟩ | ⟨-, -, hv⟩
  · simp [isZero, hv] at hz
  · simp [isZero, hv] at hz
  · have h0 : x.fractionField = 0 := by
      simpa [isZero_of_finite hv] using hz
    simp only [isIntegral, magnitudeBelow, truncate, hv, h0]
    refine ⟨by simp only [Nat.zero_mod, beq_self_eq_true, Bool.or_true], ?_, ?_⟩
    · simp only [Int.reduceNeg, Int.reduceLE, if_false, Nat.zero_mul, decide_eq_true_eq]
      have hpos : ∀ k, 0 < Nat.pow 2 k := Nat.two_pow_pos
      exact Nat.mul_pos (by decide) (hpos _)
    · simp only [Nat.zero_mul, Nat.zero_div, ite_self, Int.natCast_zero, Int.neg_zero]
  · have h0 := isZero_of_finite hv
    simp [hz] at h0

end Binary64

end FormulaShader
