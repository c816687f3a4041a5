import Mathlib
import PipelineGraph.Proofs.NumberReading

namespace PipelineGraph.Number

open Float.Model

variable {x : Float32}

theorem exponent_lt_of_isFinite (h : x.isFinite = true) :
    x.toBits.toNat % 2 ^ 31 / 2 ^ 23 < 255 := by
  have hne : @UnpackedFloat.unpackExponent .binary32 x.toBits.toBitVec ≠ -1#8 := by
    intro hall
    have hunpack : (UnpackedFloat.unpack .binary32 x.toBits.toBitVec).isFinite = true := h
    unfold UnpackedFloat.unpack at hunpack
    rw [if_pos hall] at hunpack
    split at hunpack <;> cases hunpack
  have hlt : x.toBits.toNat / 2 ^ 23 % 2 ^ 8 ≠ 255 := by
    intro hall
    refine hne (BitVec.eq_of_toNat_eq ?_)
    simp only [UnpackedFloat.unpackExponent, BitVec.cast_eq, BitVec.extractLsb_toNat,
      Nat.shiftRight_eq_div_pow]
    exact hall
  omega

theorem holds_magnitude (x : Float32) : binary32.Holds (magnitude x) := by
  have hbits := x.toBits.toNat_lt
  unfold magnitude
  simp only [Nat.pow_eq]
  split
  · rename_i hzero
    refine ⟨?_, le_rfl, .inr rfl⟩
    change _ < 2 ^ 24
    dsimp only
    omega
  · rename_i hfield
    refine ⟨?_, ?_, .inl ?_⟩
    · change _ < 2 ^ 24
      dsimp only
      omega
    · change (-149 : ℤ) ≤ _
      simp only [Int.ofNat_eq_natCast]
      omega
    · change 2 ^ 23 ≤ _
      exact Nat.le_add_left _ _

theorem overflows_magnitude (h : x.isFinite = true) :
    (magnitude x).overflows binary32 = false := by
  have hexponent := exponent_lt_of_isFinite h
  unfold magnitude Dyadic.overflows binary32
  simp only [Nat.pow_eq, Int.ofNat_eq_natCast, decide_eq_false_iff_not]
  split <;> dsimp only <;> omega

theorem toFloat32_magnitude (h : x.isFinite = true) :
    (magnitude x).toFloat32 (isNegative x) = x := by
  suffices hsum : (magnitude x).toFloat32 (isNegative x) = .ofBits (.ofNat x.toBits.toNat) by
    rw [hsum, UInt32.ofNat_toNat, Float32.ofBits_toBits]
  unfold Dyadic.toFloat32
  rw [overflows_magnitude h, if_neg Bool.false_ne_true]
  refine congrArg Float32.ofBits (congrArg UInt32.ofNat ?_)
  unfold magnitude isNegative
  simp only [Nat.pow_eq, decide_eq_true_eq, Int.ofNat_eq_natCast]
  have hbits := x.toBits.toNat_lt
  generalize x.toBits.toNat = b at *
  have hsign : (if 2 ^ 31 ≤ b then 2 ^ 31 else 0) + b % 2 ^ 31 = b := by
    split <;> omega
  by_cases hfield : b % 2 ^ 31 / 2 ^ 23 = 0
  · rw [if_pos hfield]
    dsimp only
    rw [if_pos (Nat.mod_lt _ (by decide))]
    omega
  · rw [if_neg hfield]
    dsimp only
    rw [if_neg (show ¬ b % 2 ^ 31 % 2 ^ 23 + 2 ^ 23 < 2 ^ 23 by omega)]
    omega

theorem eq_of_isNaN (h : x.isNaN = true) : x = .ofBits 0x7fc00000 := by
  rw [Float32.isNaN_eq_decide_eq_nan, decide_eq_true_eq] at h
  rw [h]
  decide +kernel

section Decimal

variable {d : Decimal} {tie : Tie}

theorem digits_eq_zero_or_nearest (hvalue : d.value = (shortest tie (magnitude x)).value) :
    (magnitude x = ⟨0, -149⟩ ∧ d.digits = 0) ∨
      (magnitude x).significand ≠ 0 ∧ (magnitude x).Nearest binary32 d.value := by
  have hx := holds_magnitude x
  by_cases hm : (magnitude x).significand = 0
  · have hexponent : (magnitude x).exponent = -149 := by
      refine hx.normal.resolve_left fun hle ↦ ?_
      rw [hm] at hle
      exact absurd hle (by decide)
    refine .inl ⟨?_, ?_⟩
    · rw [← hm, ← hexponent]
    · rw [shortest, if_pos hm] at hvalue
      simpa [Decimal.value, Scientific.value, zpow_ne_zero] using hvalue
  · exact .inr ⟨hm, hvalue ▸ Dyadic.nearest_shortest hx hm tie⟩

/-- The shortest digits of a finite number are rounded to that number. -/
theorem toFloat32_eq (h : x.isFinite = true) (hsign : d.negative = isNegative x)
    (hvalue : d.value = (shortest tie (magnitude x)).value) : d.toFloat32 = x := by
  suffices hround : d.round? binary32 = some (magnitude x) by
    rw [Decimal.toFloat32, hround, hsign]
    exact toFloat32_magnitude h
  rcases digits_eq_zero_or_nearest hvalue with ⟨hx, hzero⟩ | ⟨hm, hnear⟩
  · rw [Decimal.round?, if_pos hzero, hx]
    rfl
  · have hsize := overflows_magnitude h
    obtain ⟨hlow, hhigh⟩ := hnear.bounds (holds_magnitude x) hm hsize
    obtain ⟨num, den, hn, hd, hratio, hround⟩ := Decimal.round?_eq
      (le_trans (by norm_num) hlow) (hhigh.trans (by norm_num)) binary32
    have heq : roundRatio binary32 num den = magnitude x :=
      Dyadic.Nearest.roundRatio_eq (by decide) (holds_magnitude x) hn hd (hratio.symm ▸ hnear)
    rw [hround, heq, if_neg (by rw [hsize]; exact Bool.false_ne_true)]

/-- The shortest digits of a finite number begin below this power of ten. -/
theorem top_shortest_le (h : x.isFinite = true) (tie : Tie) :
    (shortest tie (magnitude x)).exponent +
      (Nat.toDigits 10 (shortest tie (magnitude x)).digits).length ≤ 39 := by
  have hx := holds_magnitude x
  by_cases hm : (magnitude x).significand = 0
  · rw [shortest, if_pos hm]
    decide
  · obtain ⟨hlow, hhigh⟩ :=
      (Dyadic.nearest_shortest hx hm tie).bounds hx hm (overflows_magnitude h)
    have hdigits : (shortest tie (magnitude x)).digits ≠ 0 := by
      intro hzero
      rw [Scientific.value, hzero, Nat.cast_zero, zero_mul] at hlow
      exact absurd hlow (not_le.2 (by positivity))
    have htop := (toDigits_bounds hdigits (shortest tie (magnitude x)).exponent).1.trans_lt hhigh
    have hpow : (2 : ℚ) ^ (128 : ℤ) < 10 ^ (39 : ℤ) := by norm_num
    have hlt := (zpow_lt_zpow_iff_right₀ (by norm_num : (1 : ℚ) < 10)).1 (htop.trans hpow)
    omega

end Decimal

end PipelineGraph.Number
