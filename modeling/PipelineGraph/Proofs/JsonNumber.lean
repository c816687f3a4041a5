import PipelineGraph.Json.Decode
import PipelineGraph.Proofs.FloatText

namespace PipelineGraph.Json

open Number

variable {x : Float32} {significand : ℕ}

/-- The text of a number is read back as that number. -/
def ReadsBack (x : Float32) : Prop := float32? (finiteText numberStyle x) = some x

instance (x : Float32) : Decidable (ReadsBack x) := inferInstanceAs (Decidable (_ = _))

theorem takeDigits_lt (h : significand < 2 ^ 64) (cs : List Char) :
    (takeDigits significand cs).1 < 2 ^ 64 := by
  induction cs generalizing significand with
  | nil => exact h
  | cons c cs ih =>
    rw [takeDigits]
    split
    · rename_i hnext
      exact ih hnext
    · exact h

theorem takeDigits_le (significand : ℕ) (cs : List Char) :
    (takeDigits significand cs).2 ≤ cs.length := by
  induction cs generalizing significand with
  | nil => exact Nat.zero_le 0
  | cons c cs ih =>
    rw [takeDigits]
    split
    · exact (ih _).trans (Nat.le_succ _)
    · exact Nat.le_refl _

theorem value_double_lt {n : ℕ} (hn : 0 < n) {k : ℤ} (hk : 0 ≤ k) (h : (n : ℚ) < 2 ^ k) :
    (roundRatio binary64 n 1).value < 2 ^ (k + 1) := by
  have hleast : binary64.leastExponent + binary64.precision ≤ k := le_trans (by decide) hk
  refine value_roundRatio_lt (by decide) hn Nat.one_pos hleast ?_
  rwa [Nat.cast_one, div_one]

theorem overflows_mul {x y : Number.Dyadic} (hx : x.value < 2 ^ (65 : ℤ))
    (hy : y.value < 2 ^ (201 : ℤ)) : (x.mul binary64 y).overflows binary64 = false := by
  have hden : 0 < x.ratio.2 * y.ratio.2 := Nat.mul_pos x.ratio_pos y.ratio_pos
  have hratio : ((x.ratio.1 * y.ratio.1 : ℕ) : ℚ) / (x.ratio.2 * y.ratio.2 : ℕ) <
      2 ^ (265 + 1 : ℤ) := by
    rw [Nat.cast_mul, Nat.cast_mul, mul_div_mul_comm, Dyadic.ratio_eq, Dyadic.ratio_eq]
    calc x.value * y.value < 2 ^ (65 : ℤ) * 2 ^ (201 : ℤ) :=
          mul_lt_mul'' hx hy x.value_nonneg y.value_nonneg
      _ = 2 ^ (265 + 1 : ℤ) := (zpow_add₀ two_ne_zero 65 201).symm
  rcases Nat.eq_zero_or_pos (x.ratio.1 * y.ratio.1) with hzero | hpos
  · rw [Number.Dyadic.mul, hzero]
    rfl
  · have hexponent := exponent_roundRatio_le binary64 hpos hden hratio
    exact decide_eq_false (not_lt.2 (hexponent.trans (by decide)))

theorem isSome_scaleTen? (hs : significand < 2 ^ 64) {exponent : ℤ} (he : exponent ≤ 60) :
    (scaleTen? significand exponent).isSome = true := by
  unfold scaleTen?
  cases exponent with
  | negSucc n => rfl
  | ofNat n =>
    have hn : n ≤ 60 := by
      rw [Int.ofNat_eq_natCast] at he
      omega
    dsimp only
    split
    · rfl
    · rename_i hne
      have hx : (roundRatio binary64 significand 1).value < 2 ^ (65 : ℤ) :=
        value_double_lt (Nat.pos_of_ne_zero hne) (k := 64) (by decide) (mod_cast hs)
      have hpower : 10 ^ n < 2 ^ 200 :=
        (Nat.pow_le_pow_right (by decide) hn).trans_lt (by decide : 10 ^ 60 < 2 ^ 200)
      have hy : (powerOfTen n).value < 2 ^ (201 : ℤ) :=
        value_double_lt (Nat.pow_pos (by decide)) (k := 200) (by decide) (mod_cast hpower)
      rw [if_neg (by omega), overflows_mul hx hy]
      rfl

theorem isSome_double? {d : Decimal} (h : d.exponent + d.whole.length ≤ 60) :
    (double? d).isSome = true := by
  have hdropped := takeDigits_le 0 d.whole
  have hwhole : (takeDigits 0 d.whole).1 < 2 ^ 64 := takeDigits_lt (by decide) d.whole
  exact isSome_scaleTen? (takeDigits_lt hwhole d.fraction) (by omega)

/-- The text of a finite number is never read as too large a number. -/
theorem isSome_float32?_finiteText (h : x.isFinite = true) :
    (float32? (finiteText numberStyle x)).isSome = true := by
  obtain ⟨d, hread, -, -, htop⟩ := decimal?_finiteText numberStyle x
  have hshort := top_shortest_le h numberStyle.tie
  obtain ⟨y, hy⟩ := Option.isSome_iff_exists.1 (isSome_double? (d := d) (by omega))
  rw [float32?, hread, Option.bind_eq_bind, Option.bind_some]
  extract_lets limit
  split
  · rfl
  · rw [hy]
    rfl

/-- This number is read back although the decimal in its text, rounded to double precision and then
to single, gives the one after it. -/
example : ReadsBack (.ofBits 0x15ae43fd) := by decide +kernel

theorem isSome_asFloat32?_ofFloat32 (x : Float32) :
    (ofFloat32 x).asFloat32?.isSome = x.isFinite := by
  rw [ofFloat32]
  cases h : x.isFinite with
  | false => rfl
  | true => exact isSome_float32?_finiteText h

theorem asFloat32?_ofFloat32_eq_some_iff :
    (ofFloat32 x).asFloat32? = some x ↔ x.isFinite ∧ ReadsBack x := by
  rw [ofFloat32]
  by_cases h : x.isFinite = true
  · rw [if_pos h]
    exact (and_iff_right h).symm
  · rw [if_neg h]
    exact iff_of_false nofun fun hfinite ↦ h hfinite.1

end PipelineGraph.Json
