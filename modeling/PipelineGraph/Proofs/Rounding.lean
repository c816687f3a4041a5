import Mathlib.Algebra.Order.Archimedean.Basic
import Mathlib.Algebra.Order.Field.Power
import Mathlib.Data.Rat.Cast.Order
import Mathlib.Tactic.Linarith
import Mathlib.Tactic.NormNum
import Mathlib.Tactic.Positivity
import Mathlib.Tactic.Ring
import PipelineGraph.Number.Binary

namespace PipelineGraph.Number

section Scale

variable {b num den : ℕ}

def scaleBy (b num den : ℕ) (e : ℤ) : ℕ × ℕ :=
  match e with
  | .ofNat n => (num, den * Nat.pow b n)
  | .negSucc n => (num * Nat.pow b (n + 1), den)

theorem scale_eq (num den : ℕ) (e : ℤ) : scale num den e = scaleBy 2 num den e := by
  cases e <;> rfl

theorem scaleBy_ratio (b num den : ℕ) (e : ℤ) :
    ((scaleBy b num den e).1 : ℚ) / (scaleBy b num den e).2 = num / den / b ^ e := by
  cases e with
  | ofNat n =>
    have hpow : ((Nat.pow b n : ℕ) : ℚ) = b ^ n := Nat.cast_pow b n
    simp only [scaleBy, Nat.cast_mul, hpow, Int.ofNat_eq_natCast, zpow_natCast, div_div]
  | negSucc n =>
    have hpow : ((Nat.pow b (n + 1) : ℕ) : ℚ) = b ^ (n + 1) := Nat.cast_pow b (n + 1)
    simp only [scaleBy, Nat.cast_mul, hpow, zpow_negSucc, div_inv_eq_mul]
    ring

theorem scaleBy_pos (hb : 0 < b) (hd : 0 < den) (num : ℕ) (e : ℤ) : 0 < (scaleBy b num den e).2 := by
  cases e with
  | ofNat n => exact Nat.mul_pos hd (Nat.pow_pos hb)
  | negSucc n => exact hd

theorem scaleBy_le_iff (hb : 0 < b) (hd : 0 < den) (num d : ℕ) (e : ℤ) :
    (scaleBy b num den e).1 ≤ d * (scaleBy b num den e).2 ↔ (num : ℚ) / den ≤ d * b ^ e := by
  have hpos : (0 : ℚ) < (scaleBy b num den e).2 := mod_cast scaleBy_pos hb hd num e
  rw [← div_le_iff₀ (by positivity), ← scaleBy_ratio, div_le_iff₀ hpos]
  exact_mod_cast Iff.rfl

theorem le_scaleBy_iff (hb : 0 < b) (hd : 0 < den) (num d : ℕ) (e : ℤ) :
    d * (scaleBy b num den e).2 ≤ (scaleBy b num den e).1 ↔ (d : ℚ) * b ^ e ≤ num / den := by
  have hpos : (0 : ℚ) < (scaleBy b num den e).2 := mod_cast scaleBy_pos hb hd num e
  rw [← le_div_iff₀ (by positivity), ← scaleBy_ratio, le_div_iff₀ hpos]
  exact_mod_cast Iff.rfl

theorem two_zpow_lt_iff {j k : ℤ} : (2 : ℚ) ^ j < 2 ^ k ↔ j < k :=
  zpow_lt_zpow_iff_right₀ one_lt_two

theorem ratio_bounds (hn : 0 < num) (hd : 0 < den) :
    (2 : ℚ) ^ ((num.log2 : ℤ) - den.log2 - 1) < num / den ∧
      (num : ℚ) / den < 2 ^ ((num.log2 : ℤ) - den.log2 + 1) := by
  have hden : (0 : ℚ) < den := mod_cast hd
  have hnum₁ : (2 : ℚ) ^ (num.log2 : ℤ) ≤ num := mod_cast Nat.log2_self_le hn.ne'
  have hnum₂ : (num : ℚ) < 2 ^ ((num.log2 : ℤ) + 1) := mod_cast Nat.lt_log2_self
  have hden₁ : (2 : ℚ) ^ (den.log2 : ℤ) ≤ den := mod_cast Nat.log2_self_le hd.ne'
  have hden₂ : (den : ℚ) < 2 ^ ((den.log2 : ℤ) + 1) := mod_cast Nat.lt_log2_self
  constructor
  · rw [lt_div_iff₀ hden]
    calc (2 : ℚ) ^ ((num.log2 : ℤ) - den.log2 - 1) * den
        < 2 ^ ((num.log2 : ℤ) - den.log2 - 1) * 2 ^ ((den.log2 : ℤ) + 1) :=
          mul_lt_mul_of_pos_left hden₂ (by positivity)
      _ = 2 ^ (num.log2 : ℤ) := by
          rw [← zpow_add₀ two_ne_zero]
          congr 1
          ring
      _ ≤ num := hnum₁
  · rw [div_lt_iff₀ hden]
    calc (num : ℚ) < 2 ^ ((num.log2 : ℤ) + 1) := hnum₂
      _ = 2 ^ ((num.log2 : ℤ) - den.log2 + 1) * 2 ^ (den.log2 : ℤ) := by
          rw [← zpow_add₀ two_ne_zero]
          congr 1
          ring
      _ ≤ 2 ^ ((num.log2 : ℤ) - den.log2 + 1) * den :=
          mul_le_mul_of_nonneg_left hden₁ (by positivity)

theorem scale_le_iff (hd : 0 < den) (num : ℕ) (e : ℤ) :
    (scale num den e).2 ≤ (scale num den e).1 ↔ (2 : ℚ) ^ e ≤ num / den := by
  simpa [scale_eq] using le_scaleBy_iff Nat.two_pos hd num 1 e

theorem lastPlace_eq (fmt : BinaryFormat) (hn : 0 < num) (hd : 0 < den) {k : ℤ}
    (hlow : (2 : ℚ) ^ k ≤ num / den) (hhigh : (num : ℚ) / den < 2 ^ (k + 1)) :
    lastPlace fmt num den = max fmt.leastExponent (k - fmt.precision + 1) := by
  obtain ⟨hlow', hhigh'⟩ := ratio_bounds hn hd
  have hk₁ := two_zpow_lt_iff.1 (hlow.trans_lt hhigh')
  have hk₂ := two_zpow_lt_iff.1 (hlow'.trans hhigh)
  simp only [lastPlace, scale_le_iff hd]
  congr 1
  split
  · rename_i h
    have hk := two_zpow_lt_iff.1 (h.trans_lt hhigh)
    omega
  · rename_i h
    have hk := two_zpow_lt_iff.1 (hlow.trans_lt (not_le.1 h))
    omega

/-- A ratio whose leading place is as far up as the bits reach has its last place there. -/
theorem lastPlace_eq_of_full (fmt : BinaryFormat) (hn : 0 < num) (hd : 0 < den) {e : ℤ}
    (hleast : fmt.leastExponent ≤ e) (hlow : (2 : ℚ) ^ (fmt.precision - 1 + e) ≤ num / den)
    (hhigh : (num : ℚ) / den < 2 ^ (fmt.precision + e)) : lastPlace fmt num den = e := by
  rw [lastPlace_eq fmt hn hd hlow (by rwa [sub_add_eq_add_sub, sub_add_cancel])]
  omega

theorem lastPlace_eq_least (fmt : BinaryFormat) (hn : 0 < num) (hd : 0 < den)
    (hhigh : (num : ℚ) / den < 2 ^ (fmt.precision + fmt.leastExponent)) :
    lastPlace fmt num den = fmt.leastExponent := by
  have hq : (0 : ℚ) < num / den := div_pos (mod_cast hn) (mod_cast hd)
  obtain ⟨k, hk₁, hk₂⟩ := exists_mem_Ico_zpow hq (one_lt_two (α := ℚ))
  have hk := two_zpow_lt_iff.1 (hk₁.trans_lt hhigh)
  rw [lastPlace_eq fmt hn hd hk₁ hk₂]
  omega

end Scale

/-- An integer that is no further than a half away is found by rounding, an odd one only if it is
nearer. -/
theorem divideToEven_eq {num den m : ℕ} (hd : 0 < den) (hlow : (m : ℚ) - 1 / 2 ≤ num / den)
    (hhigh : (num : ℚ) / den ≤ m + 1 / 2)
    (hodd : m % 2 = 1 → (m : ℚ) - 1 / 2 < num / den ∧ (num : ℚ) / den < m + 1 / 2) :
    divideToEven num den = m := by
  have hden : (0 : ℚ) < den := mod_cast hd
  have hsplit : (num : ℚ) / den = (num / den : ℕ) + ((num % den : ℕ) : ℚ) / den := by
    rw [div_eq_iff hden.ne', add_mul, div_mul_cancel₀ _ hden.ne']
    exact_mod_cast (Nat.div_add_mod' num den).symm
  rw [hsplit] at hlow hhigh hodd
  have hhalf₁ : 2 * (num % den) < den ↔ ((num % den : ℕ) : ℚ) / den < 1 / 2 := by
    rw [div_lt_iff₀ hden, ← Nat.cast_lt (α := ℚ)]
    push_cast
    constructor <;> intro h <;> linarith
  have hhalf₂ : den < 2 * (num % den) ↔ 1 / 2 < ((num % den : ℕ) : ℚ) / den := by
    rw [lt_div_iff₀ hden, ← Nat.cast_lt (α := ℚ)]
    push_cast
    constructor <;> intro h <;> linarith
  have hrest₁ : ((num % den : ℕ) : ℚ) / den < 1 := by
    rw [div_lt_one hden]
    exact_mod_cast Nat.mod_lt num hd
  have hrest₂ : 0 ≤ ((num % den : ℕ) : ℚ) / den := by positivity
  simp only [divideToEven, hhalf₁, hhalf₂]
  generalize num / den = q at *
  generalize ((num % den : ℕ) : ℚ) / den = t at *
  have hq₁ : q ≤ m := by
    have : (q : ℚ) < m + 1 := by linarith
    have : q < m + 1 := by exact_mod_cast this
    omega
  have hq₂ : m ≤ q + 1 := by
    have : (m : ℚ) < q + 1 + 1 := by linarith
    have : m < q + 1 + 1 := by exact_mod_cast this
    omega
  obtain rfl | rfl : q = m ∨ m = q + 1 := by omega
  · split
    · rfl
    · split
      · exfalso
        linarith
      · have ht : t = 1 / 2 := by linarith
        have heven : q % 2 ≠ 1 := fun h ↦ by linarith [(hodd h).2]
        omega
  · push_cast at hlow hhigh hodd
    split
    · exfalso
      linarith
    · split
      · rfl
      · have ht : t = 1 / 2 := by linarith
        have heven : (q + 1) % 2 ≠ 1 := fun h ↦ by linarith [(hodd h).1]
        omega

/-- The numbers of a format, exponents of any size allowed: the significand fills its bits unless
the exponent is the least. -/
structure BinaryFormat.Holds (fmt : BinaryFormat) (x : Dyadic) : Prop where
  lt : x.significand < 2 ^ fmt.precision
  least_le : fmt.leastExponent ≤ x.exponent
  normal : 2 ^ (fmt.precision - 1) ≤ x.significand ∨ x.exponent = fmt.leastExponent

namespace Dyadic

def value (x : Dyadic) : ℚ := x.significand * 2 ^ x.exponent

def lower (fmt : BinaryFormat) (x : Dyadic) : ℚ :=
  if x.significand = 2 ^ (fmt.precision - 1) ∧ fmt.leastExponent < x.exponent then
    (x.significand - 1 / 4) * 2 ^ x.exponent
  else (x.significand - 1 / 2) * 2 ^ x.exponent

def upper (x : Dyadic) : ℚ := (x.significand + 1 / 2) * 2 ^ x.exponent

/-- No other number of the format is nearer, and none with an even significand is as near. -/
structure Nearest (fmt : BinaryFormat) (x : Dyadic) (q : ℚ) : Prop where
  lower_le : x.lower fmt ≤ q
  le_upper : q ≤ x.upper
  strict : x.significand % 2 = 1 → x.lower fmt < q ∧ q < x.upper

variable {fmt : BinaryFormat} {x : Dyadic} {q : ℚ}

theorem half_below_le_lower (fmt : BinaryFormat) (x : Dyadic) :
    (x.significand - 1 / 2) * 2 ^ x.exponent ≤ x.lower fmt := by
  have hpow : (0 : ℚ) < 2 ^ x.exponent := by positivity
  unfold lower
  split
  · exact mul_le_mul_of_nonneg_right (by linarith) hpow.le
  · exact le_rfl

/-- Only just below a power of two does a ratio have another last place than the number it is
nearest to. -/
theorem Nearest.lastPlace_cases (hp : 0 < fmt.precision) (hx : fmt.Holds x) {num den : ℕ}
    (hn : 0 < num) (hd : 0 < den) (h : x.Nearest fmt (num / den)) :
    lastPlace fmt num den = x.exponent ∨
      lastPlace fmt num den = x.exponent - 1 ∧ x.significand = 2 ^ (fmt.precision - 1) ∧
        (2 ^ fmt.precision - 1 / 2) * 2 ^ (x.exponent - 1) ≤ (num : ℚ) / den ∧
        (num : ℚ) / den < 2 ^ fmt.precision * 2 ^ (x.exponent - 1) := by
  have hbelow := (half_below_le_lower fmt x).trans h.lower_le
  have hpow : (0 : ℚ) < 2 ^ x.exponent := by positivity
  have htop (e : ℤ) : (2 : ℚ) ^ (fmt.precision + e) = 2 ^ fmt.precision * 2 ^ e := by
    rw [zpow_add₀ two_ne_zero, zpow_natCast]
  have hlead (e : ℤ) : (2 : ℚ) ^ (fmt.precision - 1 + e) = 2 ^ (fmt.precision - 1) * 2 ^ e := by
    rw [← Nat.cast_pred hp, zpow_add₀ two_ne_zero, zpow_natCast]
  have hhigh : (num : ℚ) / den < 2 ^ (fmt.precision + x.exponent) := by
    have hm : (x.significand : ℚ) + 1 ≤ 2 ^ fmt.precision := by exact_mod_cast hx.lt
    rw [htop]
    exact h.le_upper.trans_lt (mul_lt_mul_of_pos_right (by linarith) hpow)
  by_cases hfull : (2 : ℚ) ^ (fmt.precision - 1 + x.exponent) ≤ num / den
  · exact .inl (lastPlace_eq_of_full fmt hn hd hx.least_le hfull hhigh)
  rw [not_le] at hfull
  rcases hx.least_le.eq_or_lt with hleast | hleast
  · rw [← hleast] at hhigh ⊢
    exact .inl (lastPlace_eq_least fmt hn hd hhigh)
  -- The significand cannot be any smaller, so the ratio is in the lower half interval of the power
  -- of two that `x` is, where the last place is one further down.
  · rw [hlead] at hfull
    have hm : x.significand = 2 ^ (fmt.precision - 1) := by
      refine le_antisymm ?_ (hx.normal.resolve_right hleast.ne')
      have hlt := lt_of_mul_lt_mul_right (hbelow.trans_lt hfull) hpow.le
      have hlt' : (x.significand : ℚ) < 2 ^ (fmt.precision - 1) + 1 := by linarith
      exact Nat.lt_succ_iff.1 (by exact_mod_cast hlt')
    have hhalf : (2 : ℚ) ^ x.exponent = 2 * 2 ^ (x.exponent - 1) := by
      rw [← zpow_one_add₀ two_ne_zero, add_sub_cancel]
    have hdouble : (2 : ℚ) ^ fmt.precision = 2 * 2 ^ (fmt.precision - 1) := by
      rw [← pow_succ', Nat.sub_add_cancel hp]
    have hlower := h.lower_le
    rw [lower, if_pos ⟨hm, hleast⟩, hm, hhalf, Nat.cast_pow, Nat.cast_ofNat] at hlower
    rw [hhalf] at hfull
    have hnear : (2 ^ fmt.precision - 1 / 2) * 2 ^ (x.exponent - 1) ≤ (num : ℚ) / den := by
      rw [hdouble]
      linarith
    refine .inr ⟨lastPlace_eq_of_full fmt hn hd (by omega) ?_ ?_, hm, hnear, ?_⟩
    · have hone : (1 : ℚ) ≤ 2 ^ (fmt.precision - 1) := one_le_pow₀ one_le_two
      rw [hlead]
      refine le_trans (mul_le_mul_of_nonneg_right ?_ (by positivity)) hnear
      linarith
    · rw [htop, hdouble]
      linarith
    · rw [hdouble]
      linarith

/-- Rounding a ratio gives the number of the format that it is nearest to. -/
theorem Nearest.roundRatio_eq (hp : 0 < fmt.precision) (hx : fmt.Holds x) {num den : ℕ}
    (hn : 0 < num) (hd : 0 < den) (h : x.Nearest fmt (num / den)) :
    roundRatio fmt num den = x := by
  have hscale := scaleBy_ratio 2 num den
  have hpos := scaleBy_pos Nat.two_pos hd num
  have hplace := h.lastPlace_cases hp hx hn hd
  rw [Nat.cast_ofNat] at hscale
  unfold roundRatio
  simp only [if_neg hn.ne', Nat.pow_eq, scale_eq]
  generalize lastPlace fmt num den = e at *
  specialize hscale e
  specialize hpos e
  generalize (scaleBy 2 num den e).1 = a at *
  generalize (scaleBy 2 num den e).2 = b at *
  rcases hplace with rfl | ⟨rfl, hm, hlow, hhigh⟩
  · have hpow : (0 : ℚ) < 2 ^ x.exponent := by positivity
    have hround : divideToEven a b = x.significand := by
      refine divideToEven_eq hpos ?_ ?_ fun hodd ↦ ?_
      · rw [hscale, le_div_iff₀ hpow]
        exact (half_below_le_lower fmt x).trans h.lower_le
      · rw [hscale, div_le_iff₀ hpow]
        exact h.le_upper
      · rw [hscale, lt_div_iff₀ hpow, div_lt_iff₀ hpow]
        exact (h.strict hodd).imp_left (half_below_le_lower fmt x).trans_lt
    rw [hround, if_neg hx.lt.ne]
  -- One place further down the ratio is rounded up until it needs one more bit.
  · have hpow : (0 : ℚ) < 2 ^ (x.exponent - 1) := by positivity
    have hround : divideToEven a b = 2 ^ fmt.precision := by
      refine divideToEven_eq hpos ?_ ?_ fun hodd ↦ ?_
      · rw [hscale, le_div_iff₀ hpow]
        exact_mod_cast hlow
      · rw [hscale, div_le_iff₀ hpow, Nat.cast_pow, Nat.cast_ofNat]
        exact hhigh.le.trans (mul_le_mul_of_nonneg_right (by linarith) hpow.le)
      · have heven : Even (2 ^ fmt.precision) := Nat.even_pow.2 ⟨even_two, hp.ne'⟩
        rw [Nat.even_iff.1 heven] at hodd
        cases hodd
    rw [hround, if_pos rfl, sub_add_cancel, ← hm]

end Dyadic

section Bounds

variable {fmt : BinaryFormat} {num den : ℕ}

theorem divideToEven_le {c : ℕ} (h : num < c * den) : divideToEven num den ≤ c := by
  have hquotient : num / den < c := Nat.div_lt_of_lt_mul (Nat.mul_comm c den ▸ h)
  unfold divideToEven
  dsimp only
  split
  · omega
  · split
    · omega
    · omega

theorem significand_roundRatio_lt (hp : 0 < fmt.precision) (hn : 0 < num) (hd : 0 < den) :
    (roundRatio fmt num den).significand < 2 ^ fmt.precision := by
  have hq : (0 : ℚ) < num / den := div_pos (mod_cast hn) (mod_cast hd)
  obtain ⟨k, hlow, hhigh⟩ := exists_mem_Ico_zpow hq (one_lt_two (α := ℚ))
  have hplace := lastPlace_eq fmt hn hd hlow hhigh
  unfold roundRatio
  simp only [if_neg hn.ne', Nat.pow_eq, scale_eq]
  generalize lastPlace fmt num den = e at *
  have hratio : ((scaleBy 2 num den e).1 : ℚ) / (scaleBy 2 num den e).2 < 2 ^ fmt.precision := by
    rw [scaleBy_ratio, Nat.cast_ofNat, div_lt_iff₀ (by positivity), ← zpow_natCast,
      ← zpow_add₀ two_ne_zero]
    exact hhigh.trans_le (zpow_le_zpow_right₀ one_le_two (by omega))
  have hpos : (0 : ℚ) < (scaleBy 2 num den e).2 := mod_cast scaleBy_pos Nat.two_pos hd num e
  rw [div_lt_iff₀ hpos] at hratio
  have hle : divideToEven (scaleBy 2 num den e).1 (scaleBy 2 num den e).2 ≤ 2 ^ fmt.precision :=
    divideToEven_le (mod_cast hratio)
  split
  · exact Nat.pow_lt_pow_right (by decide) (Nat.sub_lt hp Nat.one_pos)
  · rename_i hne
    exact lt_of_le_of_ne hle hne

/-- A ratio below a power of two is rounded to that power at most. -/
theorem exponent_roundRatio_le (fmt : BinaryFormat) (hn : 0 < num) (hd : 0 < den) {k : ℤ}
    (h : (num : ℚ) / den < 2 ^ (k + 1)) :
    (roundRatio fmt num den).exponent ≤ max fmt.leastExponent (k - fmt.precision + 1) + 1 := by
  have hq : (0 : ℚ) < num / den := div_pos (mod_cast hn) (mod_cast hd)
  obtain ⟨j, hj₁, hj₂⟩ := exists_mem_Ico_zpow hq (one_lt_two (α := ℚ))
  have hj := two_zpow_lt_iff.1 (hj₁.trans_lt h)
  have hplace : lastPlace fmt num den ≤ max fmt.leastExponent (k - fmt.precision + 1) := by
    rw [lastPlace_eq fmt hn hd hj₁ hj₂]
    omega
  unfold roundRatio
  simp only [if_neg hn.ne']
  split
  · exact Int.add_le_add_right hplace 1
  · dsimp only
    omega

theorem value_roundRatio_lt (hp : 0 < fmt.precision) (hn : 0 < num) (hd : 0 < den) {k : ℤ}
    (hk : fmt.leastExponent + fmt.precision ≤ k) (h : (num : ℚ) / den < 2 ^ k) :
    (roundRatio fmt num den).value < 2 ^ (k + 1) := by
  have hexponent := exponent_roundRatio_le fmt hn hd (k := k - 1) (by rwa [sub_add_cancel])
  have hsignificand := significand_roundRatio_lt hp hn hd
  calc (roundRatio fmt num den).value
      < 2 ^ (fmt.precision : ℤ) * 2 ^ (roundRatio fmt num den).exponent :=
        mul_lt_mul_of_pos_right (mod_cast hsignificand) (by positivity)
    _ = 2 ^ (fmt.precision + (roundRatio fmt num den).exponent) := (zpow_add₀ two_ne_zero _ _).symm
    _ ≤ 2 ^ (k + 1) := zpow_le_zpow_right₀ one_le_two (by omega)

end Bounds

theorem Dyadic.value_nonneg (x : Dyadic) : 0 ≤ x.value := by
  rw [value]
  positivity

theorem Dyadic.ratio_pos (x : Dyadic) : 0 < x.ratio.2 := by
  unfold ratio
  split
  · exact Nat.one_pos
  · exact Nat.pow_pos Nat.two_pos

theorem Dyadic.ratio_eq (x : Dyadic) : (x.ratio.1 : ℚ) / x.ratio.2 = x.value := by
  unfold ratio value
  cases x.exponent with
  | ofNat n => simp
  | negSucc n => simp [zpow_negSucc, div_eq_mul_inv]

end PipelineGraph.Number
