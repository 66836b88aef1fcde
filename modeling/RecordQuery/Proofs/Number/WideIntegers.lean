import RecordQuery.Number.Binary64

/-!
# Integers between the signed and the unsigned words

An integer of 64 bits that is too large for a signed word has its leading bit at place 63. In double
precision it keeps 53 bits, and so becomes a multiple of 2048: the nearest one.

## Main statements

* `Binary64.exponentBits_withSign`, `Binary64.fractionBits_withSign`: the fields of a word of given
  bits.
* `Binary64.isFinite_ofInt_of_wide`, `Binary64.isNear_ofInt_of_wide`: the double is finite, and it
  is an integer half a gap away from the exact one at most.
-/

namespace RecordQuery.Number

namespace Format

variable {n : Nat} (hlow : 0x8000000000000000 ≤ n) (hhigh : n < 0x10000000000000000)
include hlow hhigh

theorem leadingExponent_of_wide : leadingExponent n 1 = 63 := by
  have hlog : n.log2 = 63 := (Nat.log2_eq_iff (by omega)).mpr ⟨hlow, hhigh⟩
  have hexponent : ((n.log2 : Nat) : Int) - ((Nat.log2 1 : Nat) : Int) = 63 := by
    rw [hlog]
    rfl
  have hreached : 1 * Nat.pow 2 (63 : Int).toNat ≤ n * Nat.pow 2 (-63 : Int).toNat := by
    show 1 * 2 ^ 63 ≤ n * 2 ^ 0
    omega
  unfold leadingExponent
  simp only [hexponent]
  rw [if_pos hreached]

/-- A wide integer is rounded in units of `2 ^ 11`. -/
theorem round_double_of_wide : double.round n 1 = ⟨roundDiv n 2048, 11⟩ := by
  have hunit : max (leadingExponent n 1 - ((double.precision : Nat) - 1 : Int)) double.leastExponent
      = 11 := by
    rw [leadingExponent_of_wide hlow hhigh]
    rfl
  unfold round
  simp only [hunit]
  show Magnitude.mk (roundDiv (n * 1) (1 * 2048)) 11 = _
  rw [Nat.mul_one, Nat.one_mul]

theorem roundDiv_of_wide :
    0x10000000000000 ≤ roundDiv n 2048 ∧ roundDiv n 2048 ≤ 0x20000000000000 := by
  obtain ⟨hle, hge⟩ := roundDiv_near n 2048 (by decide)
  omega

end Format

namespace Binary64

/-! ## The fields of a positive number -/

section Fields

variable {bits : Nat} (h : bits < 0x8000000000000000)
include h

theorem toNat_bits_withSign : (withSign false bits).bits.toNat = bits := by
  show (UInt64.ofNat (bits + 0)).toNat = bits
  rw [Nat.add_zero]
  exact UInt64.toNat_ofNat_of_lt' (Nat.lt_trans h (by decide))

theorem exponentBits_withSign : (withSign false bits).exponentBits = bits / 0x10000000000000 := by
  unfold exponentBits
  rw [UInt64.toNat_and, UInt64.toNat_shiftRight, toNat_bits_withSign h]
  show bits >>> 52 &&& (2 ^ 11 - 1) = _
  rw [Nat.and_two_pow_sub_one_eq_mod, Nat.shiftRight_eq_div_pow]
  exact Nat.mod_eq_of_lt (by omega)

theorem fractionBits_withSign : (withSign false bits).fractionBits = bits % 0x10000000000000 := by
  unfold fractionBits
  rw [UInt64.toNat_and, toNat_bits_withSign h]
  show bits &&& (2 ^ 52 - 1) = _
  rw [Nat.and_two_pow_sub_one_eq_mod]

theorem isNegative_withSign : (withSign false bits).isNegative = false := by
  unfold isNegative
  rw [beq_eq_false_iff_ne]
  intro hone
  have hzero : ((withSign false bits).bits >>> 63).toNat = 0 := by
    rw [UInt64.toNat_shiftRight, toNat_bits_withSign h]
    show bits >>> 63 = 0
    rw [Nat.shiftRight_eq_div_pow]
    exact Nat.div_eq_of_lt h
  rw [hone] at hzero
  exact absurd hzero (by decide)

end Fields

/-! ## The double of a wide integer -/

/-- A positive number is an integer, at most half of 2048 away from the given one. -/
structure IsNear (x : Binary64) (n : Int) : Prop where
  positive : x.isNegative = false
  integral : x.magnitude.denominator = 1
  lower : n - 1024 ≤ x.magnitude.numerator
  upper : x.magnitude.numerator ≤ n + 1024

variable {n : Int} (hlow : 0x8000000000000000 ≤ n) (hhigh : n < 0x10000000000000000)
include hlow hhigh

theorem natAbs_of_wide : 0x8000000000000000 ≤ n.natAbs ∧ n.natAbs < 0x10000000000000000 := by
  omega

theorem roundDiv_natAbs_of_wide :
    0x10000000000000 ≤ roundDiv n.natAbs 2048 ∧ roundDiv n.natAbs 2048 ≤ 0x20000000000000 := by
  obtain ⟨hmin, hmax⟩ := natAbs_of_wide hlow hhigh
  exact Format.roundDiv_of_wide hmin hmax

theorem ofInt_of_wide :
    ofInt n = withSign false (1085 * 0x10000000000000 + roundDiv n.natAbs 2048) := by
  obtain ⟨hmin, hmax⟩ := natAbs_of_wide hlow hhigh
  obtain ⟨-, hle⟩ := roundDiv_natAbs_of_wide hlow hhigh
  have hpositive : decide (n < 0) = false := decide_eq_false (by omega)
  have hsome : (n.natAbs == 0) = false := beq_eq_false_iff_ne.mpr (by omega)
  have hfits : Format.double.overflows ⟨roundDiv n.natAbs 2048, 11⟩ = false := by
    have hlarge : 2 ^ 65 ≤ 2 ^ Format.double.overflowExponent :=
      Nat.pow_le_pow_right (by decide) (by decide)
    apply decide_eq_false
    show ¬ Nat.pow 2 Format.double.overflowExponent * 1 ≤ roundDiv n.natAbs 2048 * 2 ^ 11
    rw [Nat.pow_eq]
    generalize 2 ^ Format.double.overflowExponent = bound at hlarge ⊢
    omega
  unfold ofInt ofQuotient
  rw [hpositive, hsome, if_neg Bool.false_ne_true]
  simp only [Format.round_double_of_wide hmin hmax, hfits]
  rfl

theorem magnitude_ofInt_of_wide :
    (ofInt n).magnitude.numerator = roundDiv n.natAbs 2048 * 2048
      ∧ (ofInt n).magnitude.denominator = 1 := by
  obtain ⟨hge, hle⟩ := roundDiv_natAbs_of_wide hlow hhigh
  rw [ofInt_of_wide hlow hhigh]
  have hbits : 1085 * 0x10000000000000 + roundDiv n.natAbs 2048 < 0x8000000000000000 := by omega
  have hexponent := exponentBits_withSign hbits
  have hfraction := fractionBits_withSign hbits
  generalize roundDiv n.natAbs 2048 = significand at *
  generalize withSign false (1085 * 0x10000000000000 + significand) = x at *
  have hnormal : (x.exponentBits == 0) = false := beq_eq_false_iff_ne.mpr (by omega)
  unfold magnitude
  rw [hnormal, if_neg Bool.false_ne_true]
  -- Rounding up may reach the next power of two, with the next exponent.
  rcases Nat.lt_or_eq_of_le hle with hlt | heq
  · have hsame : x.exponentBits = 1086 := by omega
    rw [hsame]
    show (2 ^ 52 + x.fractionBits) * 2 ^ 11 = significand * 2048 ∧ 2 ^ 0 = 1
    omega
  · have hnext : x.exponentBits = 1087 := by omega
    rw [hnext]
    show (2 ^ 52 + x.fractionBits) * 2 ^ 12 = significand * 2048 ∧ 2 ^ 0 = 1
    omega

theorem isFinite_ofInt_of_wide : (ofInt n).isFinite = true := by
  obtain ⟨-, hle⟩ := roundDiv_natAbs_of_wide hlow hhigh
  rw [ofInt_of_wide hlow hhigh]
  unfold isFinite
  rw [exponentBits_withSign (by omega), bne_iff_ne]
  omega

theorem isNear_ofInt_of_wide : (ofInt n).IsNear n := by
  obtain ⟨hmin, hmax⟩ := natAbs_of_wide hlow hhigh
  obtain ⟨-, hle⟩ := roundDiv_natAbs_of_wide hlow hhigh
  obtain ⟨hnumerator, hdenominator⟩ := magnitude_ofInt_of_wide hlow hhigh
  obtain ⟨hbelow, habove⟩ := roundDiv_near n.natAbs 2048 (by decide)
  refine ⟨?_, hdenominator, ?_, ?_⟩
  · rw [ofInt_of_wide hlow hhigh]
    exact isNegative_withSign (by omega)
  · rw [hnumerator]
    omega
  · rw [hnumerator]
    omega

end Binary64

end RecordQuery.Number
