import PipelineGraph.Proofs.Scan
import PipelineGraph.Proofs.ShortestDigits

namespace PipelineGraph.Number

open Text

variable {cs ds es fs : List Char}

structure ReadsExponent (es : List Char) (e : ℤ) : Prop where
  stops : Stops Char.isDigit es
  noPoint : es.head? ≠ some '.'
  reads : exponentPart? es = some e

theorem readsExponent_nil : ReadsExponent [] 0 := ⟨nofun, nofun, rfl⟩

theorem readsExponent_text (e : ℤ) :
    ReadsExponent ('e' :: (if e < 0 then '-' else '+') :: Nat.toDigits 10 e.natAbs) e := by
  refine ⟨stops_cons (by decide), by simp, ?_⟩
  have hvalue := Nat.ofDigitChars_ten_toDigits (n := e.natAbs)
  obtain ⟨hne, hdigits⟩ := digits_toDigits e.natAbs
  have hempty : ¬ ((Nat.toDigits 10 e.natAbs).isEmpty = true ∨
      ¬ (Nat.toDigits 10 e.natAbs).all Char.isDigit = true) := by
    simp [List.all_eq_true.2 hdigits, hne]
  unfold exponentPart?
  by_cases he : e < 0
  · simp only [if_pos he, true_or, if_true, if_neg hempty, hvalue]
    congr 1
    omega
  · simp only [if_neg he, true_or, if_true, if_neg hempty, hvalue, Bool.false_eq_true, if_false]
    congr 1
    omega

namespace Decimal

def value (d : Decimal) : ℚ := d.digits * 10 ^ d.place

end Decimal

theorem unsignedDecimal?_pointed (negative : Bool) {ws : List Char} {e : ℤ} (hw : Digits ws)
    (hf : ∀ c ∈ fs, c.isDigit = true) (he : ReadsExponent es e) :
    unsignedDecimal? negative (ws ++ '.' :: (fs ++ es)) =
      some ⟨negative, ws, fs, e, false⟩ := by
  have hpoint : Stops Char.isDigit ('.' :: (fs ++ es)) := stops_cons (by decide)
  have hempty : ws.isEmpty = false := by simpa using hw.1
  simp [unsignedDecimal?, hpoint.takeWhile_append hw.2, hpoint.dropWhile_append hw.2,
    he.stops.takeWhile_append hf, he.stops.dropWhile_append hf, hempty, he.reads]

theorem unsignedDecimal?_plain (negative : Bool) {ws : List Char} {e : ℤ} (hw : Digits ws)
    (he : ReadsExponent es e) :
    unsignedDecimal? negative (ws ++ es) =
      some ⟨negative, ws, [], e, es.isEmpty⟩ := by
  have hempty : ws.isEmpty = false := by simpa using hw.1
  unfold unsignedDecimal?
  simp only [he.stops.takeWhile_append hw.2, he.stops.dropWhile_append hw.2]
  split
  · exact absurd rfl he.noPoint
  · simp [hempty, he.reads]

/-- An unsigned number is read as a decimal of this value. The digits before its point, where the
number zero has one as well, stand for no more than the given power of ten. -/
def ReadsValue (cs : List Char) (v : ℚ) (top : ℤ) : Prop :=
  ∀ negative, ∃ d, unsignedDecimal? negative cs = some d ∧ d.negative = negative ∧ d.value = v ∧
    d.exponent + d.whole.length ≤ max 1 top

theorem readsValue_of_unsignedDecimal? {v : ℚ} {ws : List Char} {exponent top : ℤ} {integral : Bool}
    (h : ∀ negative, unsignedDecimal? negative cs = some ⟨negative, ws, fs, exponent, integral⟩)
    (hv : (Nat.ofDigitChars 10 (ws ++ fs) 0 : ℚ) * 10 ^ (exponent - fs.length) = v)
    (htop : exponent + ws.length ≤ max 1 top) : ReadsValue cs v top :=
  fun negative ↦ ⟨_, h negative, rfl, hv, htop⟩

theorem readsValue_positionalText (hds : Digits ds) (e : ℤ) :
    ReadsValue (positionalText ds e) (Nat.ofDigitChars 10 ds 0 * 10 ^ e) (e + ds.length) := by
  have hzeros (k : ℕ) : ∀ c ∈ List.replicate k '0', c.isDigit = true :=
    fun c ↦ isDigit_of_mem_replicate
  unfold positionalText
  split
  · rename_i n
    have htext : ds ++ List.replicate n '0' ++ ['.', '0'] =
        ds ++ List.replicate n '0' ++ '.' :: (List.replicate 1 '0' ++ []) := rfl
    rw [htext]
    refine readsValue_of_unsignedDecimal? (fun negative ↦ unsignedDecimal?_pointed negative
      (hds.append (hzeros n)) (hzeros 1) readsExponent_nil) ?_ ?_
    · rw [Nat.ofDigitChars_append, Nat.ofDigitChars_append, Nat.ofDigitChars_replicate_zero,
        Nat.ofDigitChars_replicate_zero]
      simp
      ring
    · simp only [List.length_append, List.length_replicate, Int.ofNat_eq_natCast]
      omega
  · rename_i n
    split
    · rename_i hlen
      have htake : Digits (ds.take (ds.length - (n + 1))) := by
        refine ⟨fun hnil ↦ ?_, fun c hc ↦ hds.2 c (List.mem_of_mem_take hc)⟩
        have hlength := congrArg List.length hnil
        rw [List.length_take, List.length_nil] at hlength
        omega
      rw [← List.append_nil (ds.drop _)]
      refine readsValue_of_unsignedDecimal? (fun negative ↦ unsignedDecimal?_pointed negative
        htake (fun c hc ↦ hds.2 c (List.mem_of_mem_drop hc)) readsExponent_nil) ?_ ?_
      · rw [List.take_append_drop, List.length_drop, Nat.sub_sub_self hlen.le]
        simp [Int.negSucc_eq]
      · rw [List.length_take]
        omega
    · rename_i hlen
      have htext : '0' :: '.' :: (List.replicate (n + 1 - ds.length) '0' ++ ds) =
          List.replicate 1 '0' ++ '.' :: ((List.replicate (n + 1 - ds.length) '0' ++ ds) ++ []) := by
        simp
      rw [htext]
      refine readsValue_of_unsignedDecimal? (fun negative ↦ unsignedDecimal?_pointed negative
        ⟨by simp, hzeros 1⟩ ?_ readsExponent_nil) ?_ (le_max_left _ _)
      · exact List.forall_mem_append.2 ⟨hzeros _, hds.2⟩
      · rw [Nat.ofDigitChars_append, Nat.ofDigitChars_append, Nat.ofDigitChars_replicate_zero,
          Nat.ofDigitChars_replicate_zero, List.length_append, List.length_replicate,
          Nat.sub_add_cancel (Nat.le_of_not_lt hlen)]
        simp [Int.negSucc_eq]

theorem readsValue_exponentText (hds : Digits ds) (e : ℤ) :
    ReadsValue (exponentText ds (e + ds.length - 1)) (Nat.ofDigitChars 10 ds 0 * 10 ^ e)
      (e + ds.length) := by
  have hexponent := readsExponent_text (e + ds.length - 1)
  unfold exponentText
  match ds with
  | [] => exact absurd rfl hds.1
  | [d] =>
    refine readsValue_of_unsignedDecimal?
      (fun negative ↦ unsignedDecimal?_plain negative hds hexponent) ?_ ?_
    · simp
    · simp
  | d :: c :: ds =>
    obtain ⟨hd, hrest⟩ := List.forall_mem_cons.1 hds.2
    have htext (es : List Char) : d :: '.' :: c :: ds ++ es = [d] ++ '.' :: (c :: ds ++ es) := rfl
    dsimp only
    rw [htext]
    refine readsValue_of_unsignedDecimal? (fun negative ↦ unsignedDecimal?_pointed negative
      ⟨List.cons_ne_nil _ _, List.forall_mem_singleton.2 hd⟩ hrest hexponent) ?_ ?_
    · congr 2
      simp only [List.length_cons]
      push_cast
      ring
    · simp

theorem ReadsValue.decimal? {v : ℚ} {top : ℤ} (h : ReadsValue cs v top) (hcs : Unsigned cs)
    (negative : Bool) :
    ∃ d, decimal? (if negative then '-' :: cs else cs) = some d ∧ d.negative = negative ∧
      d.value = v ∧ d.exponent + d.whole.length ≤ max 1 top := by
  cases negative with
  | true => exact h true
  | false =>
    obtain ⟨c, cs, rfl, hc⟩ := hcs.exists_cons
    obtain ⟨d, hread, hd⟩ := h false
    refine ⟨d, ?_, hd⟩
    rw [if_neg Bool.false_ne_true, ← hread]
    unfold Number.decimal?
    split
    · rename_i heq
      cases heq
      cases hc
    · rename_i heq
      cases heq
      cases hc
    · rfl

/-- The text of a finite number is read as a decimal with its sign and the value of its shortest
digits. -/
theorem decimal?_finiteText (style : NumberStyle) (x : Float32) :
    let s := shortest style.tie (magnitude x)
    ∃ d, decimal? (finiteText style x) = some d ∧ d.negative = isNegative x ∧ d.value = s.value ∧
      d.exponent + d.whole.length ≤ max 1 (s.exponent + (Nat.toDigits 10 s.digits).length) := by
  have hplain := plain_shortest style.tie (magnitude x)
  unfold finiteText
  dsimp only
  generalize shortest style.tie (magnitude x) = s at *
  have hds := digits_toDigits s.digits
  have hvalue : s.value = Nat.ofDigitChars 10 (Nat.toDigits 10 s.digits) 0 * 10 ^ s.exponent := by
    rw [Nat.ofDigitChars_ten_toDigits, Scientific.value]
  rw [hvalue]
  refine ReadsValue.decimal? ?_ (unsigned_text hplain _ _) (isNegative x)
  split
  · exact readsValue_positionalText hds _
  · exact readsValue_exponentText hds _

theorem toDigits_bounds {n : ℕ} (h : n ≠ 0) (e : ℤ) :
    (10 : ℚ) ^ (e + (Nat.toDigits 10 n).length - 1) ≤ n * 10 ^ e ∧
      (n : ℚ) * 10 ^ e < 10 ^ (e + (Nat.toDigits 10 n).length) := by
  obtain ⟨k, hk⟩ := Nat.exists_eq_succ_of_ne_zero
    (mt List.length_eq_zero_iff.1 (Nat.toDigits_ne_nil (b := 10) (n := n)))
  have hlow := pow_le_of_length_toDigits h hk
  have hhigh := (Nat.length_toDigits_le_iff (by decide) (Nat.succ_pos k)).1 hk.le
  have hpow : (0 : ℚ) < 10 ^ e := by positivity
  rw [hk, mul_comm]
  constructor
  · rw [Nat.succ_eq_add_one, Nat.cast_add, Nat.cast_one, ← add_assoc, add_sub_cancel_right,
      zpow_add₀ (by norm_num), zpow_natCast]
    exact mul_le_mul_of_nonneg_left (mod_cast hlow) hpow.le
  · rw [zpow_add₀ (by norm_num), zpow_natCast]
    exact mul_lt_mul_of_pos_left (mod_cast hhigh) hpow

namespace Decimal

variable {d : Decimal}

/-- A decimal that is not far out of reach is rounded as the ratio it is. -/
theorem round?_eq (hlow : (10 : ℚ) ^ (-200 : ℤ) ≤ d.value) (hhigh : d.value < 10 ^ (200 : ℤ))
    (fmt : BinaryFormat) : ∃ num den : ℕ, 0 < num ∧ 0 < den ∧ (num : ℚ) / den = d.value ∧
      d.round? fmt = if (roundRatio fmt num den).overflows fmt then none
        else some (roundRatio fmt num den) := by
  have hdigits : d.digits ≠ 0 := by
    intro hzero
    rw [value, hzero, Nat.cast_zero, zero_mul] at hlow
    exact absurd hlow (not_le.2 (by positivity))
  obtain ⟨hlow', hhigh'⟩ := toDigits_bounds hdigits d.place
  have hle : ¬ 400 < d.place + ((Nat.toDigits 10 d.digits).length : ℤ) := by
    have h := (zpow_lt_zpow_iff_right₀ (by norm_num : (1 : ℚ) < 10)).1 (hlow'.trans_lt hhigh)
    omega
  have hge : ¬ d.place + ((Nat.toDigits 10 d.digits).length : ℤ) < -400 := by
    have h := (zpow_lt_zpow_iff_right₀ (by norm_num : (1 : ℚ) < 10)).1 (hlow.trans_lt hhigh')
    omega
  unfold round?
  simp only [if_neg hdigits, if_neg hle, if_neg hge]
  have hpos := Nat.pos_of_ne_zero hdigits
  unfold value
  cases d.place with
  | ofNat n =>
    refine ⟨d.digits * Nat.pow 10 n, 1, Nat.mul_pos hpos (Nat.pow_pos (by decide)), Nat.one_pos, ?_,
      rfl⟩
    simp
  | negSucc n =>
    refine ⟨d.digits, Nat.pow 10 (n + 1), hpos, Nat.pow_pos (by decide), ?_, rfl⟩
    rw [zpow_negSucc, div_eq_mul_inv]
    simp

end Decimal

end PipelineGraph.Number
