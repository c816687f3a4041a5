import Mathlib.Data.Nat.Cast.Order.Field
import PipelineGraph.Proofs.NumberText
import PipelineGraph.Proofs.Rounding

namespace PipelineGraph.Number

namespace Scientific

def value (s : Scientific) : ℚ := s.digits * 10 ^ s.exponent

theorem value_strip (fuel : ℕ) (s : Scientific) : (s.strip fuel).value = s.value := by
  induction fuel generalizing s with
  | zero => rfl
  | succ fuel ih =>
    rw [strip]
    split
    · rename_i hzero
      obtain ⟨d, hd⟩ := Nat.dvd_of_mod_eq_zero hzero
      rw [ih, value, value, zpow_add_one₀ (by norm_num), hd, Nat.mul_div_cancel_left d (by decide)]
      push_cast
      ring
    · rfl

end Scientific

section Scale

variable {den : ℕ} (hd : 0 < den) (num d : ℕ) (e : ℤ)

theorem scaleDecimal_eq (num den : ℕ) (e : ℤ) : scaleDecimal num den e = scaleBy 10 num den e := by
  cases e <;> rfl

include hd

theorem scaleDecimal_le_iff : (scaleDecimal num den e).1 ≤ d * (scaleDecimal num den e).2 ↔
    (num : ℚ) / den ≤ d * 10 ^ e := by
  simpa [scaleDecimal_eq] using scaleBy_le_iff (by decide : 0 < 10) hd num d e

theorem le_scaleDecimal_iff : d * (scaleDecimal num den e).2 ≤ (scaleDecimal num den e).1 ↔
    (d : ℚ) * 10 ^ e ≤ num / den := by
  simpa [scaleDecimal_eq] using le_scaleBy_iff (by decide : 0 < 10) hd num d e

end Scale

namespace Dyadic

variable {x : Dyadic}

theorem neighbourhood_eq (hx : x.significand ≠ 0) :
    (x.neighbourhood.low : ℚ) / x.neighbourhood.den = x.lower binary32 ∧
      (x.neighbourhood.value : ℚ) / x.neighbourhood.den = x.value ∧
      (x.neighbourhood.high : ℚ) / x.neighbourhood.den = x.upper ∧
      x.neighbourhood.closed = decide (x.significand % 2 = 0) := by
  have hquarter : (2 : ℚ) ^ x.exponent = 4 * 2 ^ (x.exponent - 2) := by
    rw [zpow_sub₀ two_ne_zero]
    norm_num
    ring
  have hlow : ((if x.significand = Nat.pow 2 23 ∧ -149 < x.exponent then 4 * x.significand - 1
      else 4 * x.significand - 2 : ℕ) : ℚ) * 2 ^ (x.exponent - 2) = x.lower binary32 := by
    unfold lower
    rw [hquarter]
    have hone : 2 ≤ 4 * x.significand := by omega
    have hiff : (x.significand = Nat.pow 2 23 ∧ -149 < x.exponent) ↔
      (x.significand = 2 ^ (binary32.precision - 1) ∧ binary32.leastExponent < x.exponent) := Iff.rfl
    split
    · rw [if_pos (hiff.1 ‹_›), Nat.cast_sub (by omega)]
      push_cast
      ring
    · rw [if_neg (mt hiff.2 ‹_›), Nat.cast_sub (by omega)]
      push_cast
      ring
  rw [← hlow, value, upper, hquarter]
  unfold neighbourhood
  dsimp only
  generalize (if x.significand = Nat.pow 2 23 ∧ -149 < x.exponent then 4 * x.significand - 1
    else 4 * x.significand - 2) = low
  cases x.exponent - 2 with
  | ofNat n =>
    simp only [Nat.pow_eq, Int.ofNat_eq_natCast, zpow_natCast, Nat.cast_mul, Nat.cast_pow,
      Nat.cast_add, Nat.cast_ofNat, Nat.cast_one, div_one, and_true, true_and]
    constructor <;> ring
  | negSucc n =>
    simp only [Nat.pow_eq, zpow_negSucc, Nat.cast_mul, Nat.cast_pow, Nat.cast_add, Nat.cast_ofNat,
      div_eq_mul_inv, mul_one, and_true, true_and]
    constructor <;> ring

/-- The decimals in the neighbourhood of a number are those that are nearest to it. -/
theorem holds_neighbourhood_iff (hx : x.significand ≠ 0) (s : Scientific) :
    x.neighbourhood.holds s.digits s.exponent = true ↔ x.Nearest binary32 s.value := by
  obtain ⟨hlow, -, hhigh, hclosed⟩ := neighbourhood_eq hx
  have hden := (x.neighbourhood_pos hx).2
  rw [Neighbourhood.holds, hclosed]
  dsimp only
  have hle₁ := scaleDecimal_le_iff hden x.neighbourhood.low s.digits s.exponent
  have hle₂ := le_scaleDecimal_iff hden x.neighbourhood.high s.digits s.exponent
  have hlt₁ := (le_scaleDecimal_iff hden x.neighbourhood.low s.digits s.exponent).not
  have hlt₂ := (scaleDecimal_le_iff hden x.neighbourhood.high s.digits s.exponent).not
  rw [not_le, not_le] at hlt₁ hlt₂
  rw [hlow] at hle₁ hlt₁
  rw [hhigh] at hle₂ hlt₂
  by_cases heven : x.significand % 2 = 0
  · simp only [heven, decide_true, if_true, Bool.and_eq_true, decide_eq_true_eq, hle₁, hle₂]
    refine ⟨fun h ↦ ⟨h.1, h.2, fun hodd ↦ ?_⟩, fun h ↦ ⟨h.lower_le, h.le_upper⟩⟩
    omega
  · simp only [heven, decide_false, Bool.false_eq_true, if_false, Bool.and_eq_true,
      decide_eq_true_eq, hlt₁, hlt₂]
    exact ⟨fun h ↦ ⟨h.1.le, h.2.le, fun _ ↦ h⟩, fun h ↦ h.strict (by omega)⟩

end Dyadic

theorem pow_le_of_length_toDigits {n k : ℕ} (hn : n ≠ 0) (h : (Nat.toDigits 10 n).length = k + 1) :
    10 ^ k ≤ n := by
  rcases Nat.eq_zero_or_pos k with rfl | hk
  · exact Nat.pos_of_ne_zero hn
  · by_contra hlt
    have hle := (Nat.length_toDigits_le_iff (by decide) hk).2 (Nat.lt_of_not_le hlt)
    omega

theorem decimalMagnitude_le {num den : ℕ} (hd : 0 < den)
    (h : (2 : ℚ) ^ (-149 : ℤ) ≤ num / den) :
    (10 : ℚ) ^ (decimalMagnitude num den - 1) ≤ num / den := by
  have hden : (0 : ℚ) < den := mod_cast hd
  unfold decimalMagnitude
  split
  · rename_i hle
    obtain ⟨k, hk⟩ := Nat.exists_eq_succ_of_ne_zero
      (mt List.length_eq_zero_iff.1 (Nat.toDigits_ne_nil (b := 10) (n := num / den)))
    have hpow := pow_le_of_length_toDigits (Nat.div_pos hle hd).ne' hk
    rw [hk, Nat.succ_eq_add_one, Nat.cast_add, Nat.cast_one, add_sub_cancel_right, zpow_natCast,
      le_div_iff₀ hden]
    exact_mod_cast (Nat.le_div_iff_mul_le hd).1 hpow
  · split
    · rename_i j hj
      have hle : den ≤ num * Nat.pow 10 j := by simpa using List.find?_some hj
      rw [show (1 : ℤ) - (j : ℤ) - 1 = -(j : ℤ) by ring, zpow_neg, zpow_natCast,
        inv_le_iff_one_le_mul₀ (by positivity), div_mul_eq_mul_div, one_le_div hden]
      exact_mod_cast hle
    · rename_i hnone
      have hlt := List.find?_eq_none.1 hnone 45 (by decide)
      exfalso
      refine hlt (decide_eq_true ?_)
      rw [zpow_neg, inv_le_iff_one_le_mul₀ (by positivity), div_mul_eq_mul_div, one_le_div hden] at h
      have hle : (num : ℚ) * 2 ^ (149 : ℤ) ≤ num * 10 ^ 45 :=
        mul_le_mul_of_nonneg_left (by norm_num) (by positivity)
      exact_mod_cast h.trans hle

namespace Dyadic

variable {x : Dyadic}

theorem nearest_of_sub_lt {q : ℚ} (hlow : x.value - 1 / 4 * 2 ^ x.exponent < q)
    (hhigh : q ≤ x.value) (fmt : BinaryFormat) : x.Nearest fmt q := by
  have hpow : (0 : ℚ) < 2 ^ x.exponent := by positivity
  have hlower : x.lower fmt < q := by
    refine lt_of_le_of_lt ?_ hlow
    unfold lower value
    split <;> linarith
  have hupper : q < x.upper := by
    refine hhigh.trans_lt ?_
    unfold upper value
    linarith
  exact ⟨hlower.le, hupper.le, fun _ ↦ ⟨hlower, hupper⟩⟩

theorem le_value (hx : binary32.Holds x) (hm : x.significand ≠ 0) :
    (2 : ℚ) ^ (-149 : ℤ) ≤ x.value := by
  have hone : (1 : ℚ) ≤ x.significand := mod_cast Nat.pos_of_ne_zero hm
  calc (2 : ℚ) ^ (-149 : ℤ) ≤ 2 ^ x.exponent := zpow_le_zpow_right₀ one_le_two hx.least_le
    _ ≤ x.value := le_mul_of_one_le_left (by positivity) hone

theorem exists_onGrid_of_holds {r : Neighbourhood} {k : ℤ}
    (h : r.holds ((scaleDecimal r.value r.den k).1 / (scaleDecimal r.value r.den k).2) k = true)
    (tie : Tie) : ∃ s, r.onGrid tie k = some s := by
  unfold Neighbourhood.onGrid
  simp only [h]
  cases r.holds ((scaleDecimal r.value r.den k).1 / (scaleDecimal r.value r.den k).2 + 1) k with
  | false => exact ⟨_, rfl⟩
  | true =>
    dsimp only
    split
    · exact ⟨_, rfl⟩
    · split
      · exact ⟨_, rfl⟩
      · cases tie <;> exact ⟨_, rfl⟩

/-- Nine digits are enough. -/
theorem exists_onGrid (hx : binary32.Holds x) (hm : x.significand ≠ 0) (tie : Tie) :
    ∃ s, x.neighbourhood.onGrid tie
      (decimalMagnitude x.neighbourhood.value x.neighbourhood.den - 9) = some s := by
  obtain ⟨-, hvalue, -, -⟩ := neighbourhood_eq hm
  have hden := (x.neighbourhood_pos hm).2
  have hmagnitude := decimalMagnitude_le hden (hvalue ▸ le_value hx hm)
  refine exists_onGrid_of_holds ((holds_neighbourhood_iff hm ⟨_, _⟩).2 ?_) tie
  have hscale := scaleBy_ratio 10 x.neighbourhood.value x.neighbourhood.den
  have hpos := scaleBy_pos (by decide : 0 < 10) hden x.neighbourhood.value
  rw [hvalue] at hmagnitude hscale
  rw [Nat.cast_ofNat] at hscale
  simp only [scaleDecimal_eq]
  generalize decimalMagnitude x.neighbourhood.value x.neighbourhood.den = k at *
  specialize hscale (k - 9)
  specialize hpos (k - 9)
  generalize (scaleBy 10 x.neighbourhood.value x.neighbourhood.den (k - 9)).1 = a at *
  generalize (scaleBy 10 x.neighbourhood.value x.neighbourhood.den (k - 9)).2 = b at *
  have hb : (0 : ℚ) < b := mod_cast hpos
  have hgrid : (0 : ℚ) < 10 ^ (k - 9) := by positivity
  have hstep : (10 : ℚ) ^ (k - 9) * 10 ^ 8 ≤ x.value := by
    rw [← zpow_natCast, ← zpow_add₀ (by norm_num)]
    convert hmagnitude using 2
    push_cast
    ring
  have hsignificand : (x.significand : ℚ) < 2 ^ 24 := mod_cast hx.lt
  have hulp : x.value < 2 ^ 24 * 2 ^ x.exponent :=
    mul_lt_mul_of_pos_right hsignificand (by positivity)
  have hbelow : ((a / b : ℕ) : ℚ) * 10 ^ (k - 9) ≤ x.value := by
    rw [← le_div_iff₀ hgrid, ← hscale]
    exact Nat.cast_div_le
  have habove : x.value < (((a / b : ℕ) : ℚ) + 1) * 10 ^ (k - 9) := by
    rw [← div_lt_iff₀ hgrid, ← hscale, div_lt_iff₀ hb, add_one_mul]
    exact_mod_cast Nat.lt_div_mul_add hpos
  -- A step is at most `x / 10 ^ 8`, and that is less than a quarter of the last place of `x`.
  have hnear : x.value - 1 / 4 * 2 ^ x.exponent < ((a / b : ℕ) : ℚ) * 10 ^ (k - 9) := by linarith
  exact nearest_of_sub_lt hnear hbelow binary32

/-- The shortest decimal of a number is nearest to it. -/
theorem nearest_shortest (hx : binary32.Holds x) (hm : x.significand ≠ 0) (tie : Tie) :
    x.Nearest binary32 (shortest tie x).value := by
  obtain ⟨s, hs⟩ := exists_onGrid hx hm tie
  rw [shortest, if_neg hm]
  dsimp only
  split
  · rename_i t ht
    obtain ⟨n, -, hgrid⟩ := List.exists_of_findSome?_eq_some ht
    rw [Scientific.value_strip]
    exact (holds_neighbourhood_iff hm t).1 (Neighbourhood.holds_onGrid hgrid)
  · rename_i hnone
    have hnone := List.findSome?_eq_none_iff.1 hnone 8 (by decide)
    cases hs.symm.trans hnone

theorem Nearest.bounds {q : ℚ} (hx : binary32.Holds x) (hm : x.significand ≠ 0)
    (hsize : x.overflows binary32 = false) (h : x.Nearest binary32 q) :
    (2 : ℚ) ^ (-150 : ℤ) ≤ q ∧ q < 2 ^ (128 : ℤ) := by
  have hone : (1 : ℚ) ≤ x.significand := mod_cast Nat.pos_of_ne_zero hm
  have hleast : (2 : ℚ) ^ (-149 : ℤ) ≤ 2 ^ x.exponent :=
    zpow_le_zpow_right₀ one_le_two hx.least_le
  have hsignificand : (x.significand : ℚ) + 1 ≤ 2 ^ 24 := by exact_mod_cast hx.lt
  have hgreatest : (2 : ℚ) ^ x.exponent ≤ 2 ^ (104 : ℤ) :=
    zpow_le_zpow_right₀ one_le_two (not_lt.1 (of_decide_eq_false hsize))
  constructor
  · calc (2 : ℚ) ^ (-150 : ℤ) = 1 / 2 * 2 ^ (-149 : ℤ) := by norm_num
      _ ≤ (x.significand - 1 / 2) * 2 ^ x.exponent :=
        mul_le_mul (by linarith) hleast (by positivity) (by linarith)
      _ ≤ q := (half_below_le_lower binary32 x).trans h.lower_le
  · calc q ≤ (x.significand + 1 / 2) * 2 ^ x.exponent := h.le_upper
      _ < 2 ^ 24 * 2 ^ x.exponent := mul_lt_mul_of_pos_right (by linarith) (by positivity)
      _ ≤ 2 ^ 24 * 2 ^ (104 : ℤ) := mul_le_mul_of_nonneg_left hgreatest (by positivity)
      _ = 2 ^ (128 : ℤ) := by norm_num

end Dyadic

end PipelineGraph.Number
