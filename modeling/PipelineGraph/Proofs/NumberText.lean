import PipelineGraph.Number.Text
import PipelineGraph.Proofs.Scan

namespace PipelineGraph.Number

open Text

variable {cs ds : List Char}

inductive Whole : List Char → Prop
  | zero : Whole ['0']
  | digits {cs : List Char} (h : Digits cs) (hzero : cs.head? ≠ some '0') : Whole cs

inductive Fraction : List Char → Prop
  | none : Fraction []
  | digits {cs : List Char} (h : Digits cs) : Fraction ('.' :: cs)

inductive Exponent : List Char → Prop
  | none : Exponent []
  | digits {sign : Char} {cs : List Char} (hsign : sign = '+' ∨ sign = '-') (h : Digits cs) :
      Exponent ('e' :: sign :: cs)

inductive Unsigned : List Char → Prop
  | parts {w f e : List Char} (hw : Whole w) (hf : Fraction f) (he : Exponent e) :
      Unsigned (w ++ (f ++ e))

inductive Literal : List Char → Prop
  | positive {cs : List Char} (h : Unsigned cs) : Literal cs
  | negative {cs : List Char} (h : Unsigned cs) : Literal ('-' :: cs)

section Characters

variable {p : Char → Prop} (hdigit : ∀ c, c.isDigit = true → p c)
  (hmark : ∀ c ∈ ['.', 'e', '+', '-'], p c)
include hdigit hmark

theorem Unsigned.forall_mem (h : Unsigned cs) : ∀ c ∈ cs, p c := by
  have hdigits : ∀ {ds : List Char}, Digits ds → ∀ c ∈ ds, p c :=
    fun h c hc ↦ hdigit c (h.2 c hc)
  obtain ⟨hw, hf, he⟩ := h
  refine List.forall_mem_append.2 ⟨?_, List.forall_mem_append.2 ⟨?_, ?_⟩⟩
  · cases hw with
    | zero => exact List.forall_mem_singleton.2 (hdigit _ (by decide))
    | digits h => exact hdigits h
  · cases hf with
    | none => exact nofun
    | digits h => exact List.forall_mem_cons.2 ⟨hmark _ (by decide), hdigits h⟩
  · cases he with
    | none => exact nofun
    | digits hsign h =>
      refine List.forall_mem_cons.2 ⟨hmark _ (by decide), List.forall_mem_cons.2 ⟨?_, hdigits h⟩⟩
      rcases hsign with rfl | rfl
      · exact hmark _ (by decide)
      · exact hmark _ (by decide)

theorem Literal.forall_mem (h : Literal cs) : ∀ c ∈ cs, p c := by
  cases h with
  | positive h => exact h.forall_mem hdigit hmark
  | negative h => exact List.forall_mem_cons.2 ⟨hmark _ (by decide), h.forall_mem hdigit hmark⟩

end Characters

theorem digits_toDigits (n : Nat) : Digits (Nat.toDigits 10 n) :=
  ⟨Nat.toDigits_ne_nil, fun _ hc ↦ Nat.isDigit_of_mem_toDigits (by decide) (by decide) hc⟩

theorem isDigit_of_mem_replicate {n : Nat} {c : Char} (h : c ∈ List.replicate n '0') :
    c.isDigit = true := by
  rw [(List.mem_replicate.1 h).2]
  decide

theorem eq_zero_of_digitChar : ∀ n < 10, Nat.digitChar n = '0' → n = 0 := by decide

theorem eq_zero_of_head?_toDigits {n : Nat} (h : (Nat.toDigits 10 n).head? = some '0') : n = 0 := by
  induction n using Nat.strongRecOn with
  | ind n ih =>
    rw [Nat.toDigits_eq_if (by decide)] at h
    split at h
    · rename_i hn
      rw [List.head?_cons, Option.some.injEq] at h
      exact eq_zero_of_digitChar n hn h
    · rw [List.head?_append, List.head?_eq_some_head Nat.toDigits_ne_nil, Option.some_or] at h
      have hdiv : n / 10 = 0 := by
        refine ih (n / 10) (by omega) ?_
        rw [List.head?_eq_some_head Nat.toDigits_ne_nil, h]
      omega

theorem whole_of_digits (h : Digits cs) (hzero : cs.head? = some '0' → cs = ['0']) :
    Whole cs := by
  by_cases hhead : cs.head? = some '0'
  · rw [hzero hhead]
    exact .zero
  · exact .digits h hhead

namespace Scientific

def Plain (s : Scientific) : Prop := s.digits = 0 → s.exponent = 0

theorem digits_strip {fuel : Nat} {s : Scientific} (h : s.digits ≠ 0) :
    (s.strip fuel).digits ≠ 0 := by
  induction fuel generalizing s with
  | zero => exact h
  | succ fuel ih =>
    rw [strip]
    split
    · refine ih ?_
      dsimp only
      omega
    · exact h

end Scientific

theorem scaleDecimal_pos {num den : Nat} {exponent : Int} (hn : 0 < num) (hd : 0 < den) :
    0 < (scaleDecimal num den exponent).1 ∧ 0 < (scaleDecimal num den exponent).2 := by
  have hpow : ∀ k, 0 < Nat.pow 10 k := fun k ↦ Nat.pow_pos (by decide)
  cases exponent with
  | ofNat k => exact ⟨hn, Nat.mul_pos hd (hpow k)⟩
  | negSucc k => exact ⟨Nat.mul_pos hn (hpow _), hd⟩

theorem Neighbourhood.ne_zero_of_holds {r : Neighbourhood} {digits : Nat} {exponent : Int}
    (hlow : 0 < r.low) (hden : 0 < r.den) (h : r.holds digits exponent = true) : digits ≠ 0 := by
  rintro rfl
  have hpos : 0 < (scaleDecimal r.low r.den exponent).1 := (scaleDecimal_pos hlow hden).1
  simp only [holds, Nat.zero_mul] at h
  split at h
  · have hle := of_decide_eq_true (Bool.and_eq_true_iff.1 h).1
    omega
  · have hlt := of_decide_eq_true (Bool.and_eq_true_iff.1 h).1
    omega

/-- A decimal is only taken from a grid if it is in the neighbourhood. -/
theorem Neighbourhood.holds_onGrid {r : Neighbourhood} {tie : Tie} {exponent : Int}
    {s : Scientific} (h : r.onGrid tie exponent = some s) :
    r.holds s.digits s.exponent = true := by
  unfold onGrid at h
  dsimp only at h
  split at h
  · cases h
  · rename_i hbelow _
    cases h
    exact hbelow
  · rename_i habove
    cases h
    exact habove
  · rename_i hbelow habove
    split at h
    · cases h
      exact hbelow
    · split at h
      · cases h
        exact habove
      · cases tie with
        | even =>
          cases h
          rcases Nat.mod_two_eq_zero_or_one ((scaleDecimal r.value r.den exponent).1 /
            (scaleDecimal r.value r.den exponent).2) with heven | hodd
          · rw [heven]
            exact hbelow
          · rw [hodd]
            exact habove
        | up =>
          cases h
          exact habove

theorem Dyadic.neighbourhood_pos {x : Dyadic} (h : x.significand ≠ 0) :
    0 < x.neighbourhood.low ∧ 0 < x.neighbourhood.den := by
  have hpow : ∀ k, 0 < Nat.pow 2 k := fun k ↦ Nat.pow_pos (by decide)
  have hlow : 0 < if x.significand = Nat.pow 2 23 ∧ -149 < x.exponent then 4 * x.significand - 1
      else 4 * x.significand - 2 := by
    split <;> omega
  unfold neighbourhood
  cases x.exponent - 2 with
  | ofNat k => exact ⟨Nat.mul_pos hlow (hpow k), Nat.one_pos⟩
  | negSucc k => exact ⟨Nat.mul_pos hlow Nat.one_pos, hpow _⟩

theorem plain_shortest (tie : Tie) (x : Dyadic) : (shortest tie x).Plain := by
  unfold shortest
  split
  · exact fun _ ↦ rfl
  · rename_i hx
    obtain ⟨hlow, hden⟩ := x.neighbourhood_pos hx
    dsimp only
    split
    · rename_i s hs
      obtain ⟨n, -, hgrid⟩ := List.exists_of_findSome?_eq_some hs
      have hne := Neighbourhood.ne_zero_of_holds hlow hden (Neighbourhood.holds_onGrid hgrid)
      exact fun hzero ↦ absurd hzero (Scientific.digits_strip hne)
    · exact fun _ ↦ rfl

theorem Whole.exists_cons {w : List Char} (h : Whole w) :
    ∃ d ds, w = d :: ds ∧ d.isDigit = true := by
  cases h with
  | zero => exact ⟨'0', [], rfl, by decide⟩
  | digits h =>
    obtain ⟨d, ds, rfl⟩ := List.exists_cons_of_ne_nil h.1
    exact ⟨d, ds, rfl, h.2 d List.mem_cons_self⟩

theorem Unsigned.exists_cons (h : Unsigned cs) : ∃ d ds, cs = d :: ds ∧ d.isDigit = true := by
  obtain ⟨hw, -, -⟩ := h
  obtain ⟨d, ds, rfl, hd⟩ := hw.exists_cons
  exact ⟨d, _, rfl, hd⟩

theorem Whole.unsigned {w f : List Char} (hw : Whole w) (hf : Fraction f) : Unsigned (w ++ f) := by
  have h := Unsigned.parts hw hf .none
  rwa [List.append_nil] at h

theorem Scientific.Plain.eq_zero {s : Scientific} (h : s.Plain)
    (hhead : (Nat.toDigits 10 s.digits).head? = some '0') :
    Nat.toDigits 10 s.digits = ['0'] ∧ s.exponent = 0 := by
  have hzero := eq_zero_of_head?_toDigits hhead
  rw [hzero, Nat.toDigits_zero]
  exact ⟨rfl, h hzero⟩

theorem unsigned_positionalText {s : Scientific} (h : s.Plain) :
    Unsigned (positionalText (Nat.toDigits 10 s.digits) s.exponent) := by
  have hds := digits_toDigits s.digits
  have hplain := h.eq_zero
  generalize Nat.toDigits 10 s.digits = ds at hds hplain
  unfold positionalText
  split
  · rename_i n hn
    have hw : Whole (ds ++ List.replicate n '0') := by
      refine whole_of_digits (hds.append fun c hc ↦ isDigit_of_mem_replicate hc) fun hhead ↦ ?_
      rw [List.head?_append, List.head?_eq_some_head hds.1, Option.some_or,
        ← List.head?_eq_some_head] at hhead
      obtain ⟨hone, hexponent⟩ := hplain hhead
      have hn0 : n = 0 := Int.ofNat.inj (hn.symm.trans hexponent)
      rw [hone, hn0]
      rfl
    exact hw.unsigned (.digits ⟨by simp, List.forall_mem_singleton.2 (by decide)⟩)
  · rename_i n hn
    split
    · rename_i hlen
      have hw : Whole (ds.take (ds.length - (n + 1))) := by
        have hd : Digits (ds.take (ds.length - (n + 1))) := by
          refine ⟨fun hnil ↦ ?_, fun c hc ↦ hds.2 c (List.mem_of_mem_take hc)⟩
          have hlength := congrArg List.length hnil
          rw [List.length_take, List.length_nil] at hlength
          omega
        refine whole_of_digits hd fun hhead ↦ ?_
        rw [List.head?_take, if_neg (by omega)] at hhead
        rw [(hplain hhead).1] at hlen
        simp at hlen
      have hd : Digits (ds.drop (ds.length - (n + 1))) := by
        refine ⟨fun hnil ↦ ?_, fun c hc ↦ hds.2 c (List.mem_of_mem_drop hc)⟩
        have hlength := congrArg List.length hnil
        rw [List.length_drop, List.length_nil] at hlength
        omega
      exact hw.unsigned (.digits hd)
    · have hd : Digits (List.replicate (n + 1 - ds.length) '0' ++ ds) := by
        refine ⟨by simp [hds.1], fun c hc ↦ ?_⟩
        rcases List.mem_append.1 hc with hc | hc
        · exact isDigit_of_mem_replicate hc
        · exact hds.2 c hc
      exact Whole.zero.unsigned (.digits hd)

theorem whole_of_isDigit {c : Char} (h : c.isDigit = true) : Whole [c] := by
  refine whole_of_digits ⟨by simp, by simpa using h⟩ fun hhead ↦ ?_
  rw [List.head?_cons, Option.some.injEq] at hhead
  rw [hhead]

theorem unsigned_exponentText (n : Nat) (leading : Int) :
    Unsigned (exponentText (Nat.toDigits 10 n) leading) := by
  have hds := digits_toDigits n
  generalize Nat.toDigits 10 n = ds at hds
  have hexponent : Exponent ('e' :: (if leading < 0 then '-' else '+') ::
      Nat.toDigits 10 leading.natAbs) := by
    refine .digits ?_ (digits_toDigits _)
    split
    · exact .inr rfl
    · exact .inl rfl
  unfold exponentText
  match ds with
  | [] => exact absurd rfl hds.1
  | [d] => exact .parts (whole_of_isDigit (hds.2 d (by simp))) .none hexponent
  | d :: d' :: ds =>
    have hfraction : Fraction ('.' :: d' :: ds) :=
      .digits ⟨by simp, fun c hc ↦ hds.2 c (List.mem_cons_of_mem _ hc)⟩
    exact .parts (whole_of_isDigit (hds.2 d (by simp))) hfraction hexponent

theorem unsigned_text {s : Scientific} (h : s.Plain) (positional : Bool) (leading : Int) :
    Unsigned (if positional then positionalText (Nat.toDigits 10 s.digits) s.exponent
      else exponentText (Nat.toDigits 10 s.digits) leading) := by
  split
  · exact unsigned_positionalText h
  · exact unsigned_exponentText _ _

theorem literal_finiteText (style : NumberStyle) (x : Float32) : Literal (finiteText style x) := by
  have hplain := plain_shortest style.tie (magnitude x)
  unfold finiteText
  dsimp only
  split
  · exact .negative (unsigned_text hplain _ _)
  · exact .positive (unsigned_text hplain _ _)

section Infinite

open Float.Model

variable {x y : Float32}

theorem isFinite_iff : x.isFinite = true ↔ x.isNaN = false ∧ x.isInf = false := by
  have hstatus : x.isFinite = (!x.isNaN && !x.isInf) := by
    change x.toModel.unpack.isFinite = (!x.toModel.unpack.isNaN && !x.toModel.unpack.isInf)
    cases x.toModel.unpack <;> rfl
  rw [hstatus, Bool.and_eq_true_iff, Bool.not_eq_true', Bool.not_eq_true']

theorem eq_of_toBits (h : x.toBits = y.toBits) : x = y := by
  obtain ⟨⟨b, hb⟩⟩ := x
  obtain ⟨⟨c, hc⟩⟩ := y
  cases h
  rfl

theorem fields_of_isInf (bits : BitVec 32)
    (h : (UnpackedFloat.unpack .binary32 bits).isInf = true) :
    @UnpackedFloat.unpackExponent .binary32 bits = -1#8 ∧
      @UnpackedFloat.unpackMantissa .binary32 bits = 0#23 := by
  unfold UnpackedFloat.unpack at h
  by_cases hexponent : @UnpackedFloat.unpackExponent .binary32 bits = -1#8
  · by_cases hmantissa : @UnpackedFloat.unpackMantissa .binary32 bits = 0#23
    · exact ⟨hexponent, hmantissa⟩
    · rw [if_pos hexponent, if_neg hmantissa] at h
      cases h
  · rw [if_neg hexponent] at h
    by_cases hzero : @UnpackedFloat.unpackExponent .binary32 bits = 0#8
    · rw [if_pos hzero] at h
      by_cases hmantissa : @UnpackedFloat.unpackMantissa .binary32 bits = 0#23
      · rw [dif_pos hmantissa] at h
        cases h
      · rw [dif_neg hmantissa] at h
        cases h
    · rw [if_neg hzero] at h
      cases h

theorem toNat_toBits_of_isInf (h : x.isInf = true) :
    x.toBits.toNat = 0x7f800000 ∨ x.toBits.toNat = 0xff800000 := by
  obtain ⟨hexponent, hmantissa⟩ := fields_of_isInf x.toBits.toBitVec h
  have hlt := x.toBits.toNat_lt
  have hexponent := congrArg BitVec.toNat hexponent
  have hmantissa := congrArg BitVec.toNat hmantissa
  simp only [UnpackedFloat.unpackExponent, BitVec.cast_eq, BitVec.extractLsb_toNat,
    Nat.shiftRight_eq_div_pow] at hexponent
  simp only [UnpackedFloat.unpackMantissa, BitVec.cast_eq, BitVec.extractLsb_toNat,
    Nat.shiftRight_zero] at hmantissa
  have hexponent : x.toBits.toNat / 2 ^ 23 % 2 ^ 8 = 255 := hexponent
  have hmantissa : x.toBits.toNat % 2 ^ 23 = 0 := hmantissa
  omega

theorem eq_infinite (h : x.isInf = true) : x = Decimal.infinite (isNegative x) := by
  have hbits : ∀ w : UInt32, w = 0x7f800000 ∨ w = 0xff800000 →
      (Decimal.infinite (Nat.pow 2 31 ≤ w.toNat)).toBits = w := by
    rintro w (rfl | rfl) <;> decide +kernel
  refine eq_of_toBits (hbits x.toBits ?_).symm
  rcases toNat_toBits_of_isInf h with h | h
  · exact .inl (UInt32.toNat_inj.1 h)
  · exact .inr (UInt32.toNat_inj.1 h)

end Infinite

end PipelineGraph.Number
