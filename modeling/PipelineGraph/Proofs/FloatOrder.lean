import Mathlib
import PipelineGraph.Geometry

namespace PipelineGraph

namespace Number

open Float.Model

/-- Where a number stands among all numbers: by sign and finiteness, then by exponent, then by
significand. Both zeros stand in one place. -/
def rank : UnpackedFloat → ℤ ×ₗ ℤ ×ₗ ℤ
  | .infinity .negative => toLex (-2, toLex (0, 0))
  | .finite .negative m e _ => toLex (-1, toLex (-e, -m))
  | .zero _ | .notANumber => toLex (0, toLex (0, 0))
  | .finite .positive m e _ => toLex (1, toLex (e, m))
  | .infinity .positive => toLex (2, toLex (0, 0))

theorem compare_sign (s t : UnpackedFloat.Sign) : compare s t = compare s.ctorIdx t.ctorIdx := by
  cases s <;> cases t <;> rfl

theorem isLE_compare_then {e e' : ℤ} {m m' : ℕ} :
    ((compare e e').then (compare m m')).isLE = true ↔ e < e' ∨ e = e' ∧ m ≤ m' := by
  rw [Ordering.isLE_then_iff_or, compare_lt_iff_lt, compare_eq_iff_eq, Nat.isLE_compare]

theorem isGE_compare_then {e e' : ℤ} {m m' : ℕ} :
    ((compare e e').then (compare m m')).isGE = true ↔ e' < e ∨ e = e' ∧ m' ≤ m := by
  rw [← Ordering.isLE_swap, Ordering.swap_then, ← Std.OrientedCmp.eq_swap,
    ← Std.OrientedCmp.eq_swap, isLE_compare_then, eq_comm]

theorem le_iff_rank (a b : UnpackedFloat) :
    a.le b = true ↔ a.isNaN = false ∧ b.isNaN = false ∧ rank a ≤ rank b := by
  rcases a with (_ | _) | _ | _ | ⟨_ | _, m, e, _⟩ <;>
    rcases b with (_ | _) | _ | _ | ⟨_ | _, m', e', _⟩ <;>
    simp [UnpackedFloat.le, UnpackedFloat.compare, UnpackedFloat.isNaN, rank, compare_sign,
      UnpackedFloat.Sign.ctorIdx, Prod.Lex.toLex_le_toLex, isLE_compare_then, isGE_compare_then,
      Nat.isLE_compare]

theorem lt_iff_rank (a b : UnpackedFloat) :
    a.lt b = true ↔ a.isNaN = false ∧ b.isNaN = false ∧ rank a < rank b := by
  rcases a with (_ | _) | _ | _ | ⟨_ | _, m, e, _⟩ <;>
    rcases b with (_ | _) | _ | _ | ⟨_ | _, m', e', _⟩ <;>
    simp [UnpackedFloat.lt, UnpackedFloat.compare, UnpackedFloat.isNaN, rank, compare_sign,
      UnpackedFloat.Sign.ctorIdx, Prod.Lex.toLex_lt_toLex, Ordering.then_eq_lt,
      Ordering.then_eq_gt, compare_lt_iff_lt, compare_gt_iff_gt]

variable {a b c x : Float32}

def place (x : Float32) : ℤ ×ₗ ℤ ×ₗ ℤ := rank x.toModel.unpack

/-- Numbers compare as their places do, and NaN compares with nothing. -/
theorem le_iff_place : a ≤ b ↔ a.isNaN = false ∧ b.isNaN = false ∧ place a ≤ place b :=
  decide_eq_true_iff.trans (le_iff_rank _ _)

theorem lt_iff_place : a < b ↔ a.isNaN = false ∧ b.isNaN = false ∧ place a < place b :=
  decide_eq_true_iff.trans (lt_iff_rank _ _)

theorem float_le_trans (hab : a ≤ b) (hbc : b ≤ c) : a ≤ c := by
  rw [le_iff_place] at hab hbc ⊢
  exact ⟨hab.1, hbc.2.1, hab.2.2.trans hbc.2.2⟩

theorem float_le_total (ha : a.isNaN = false) (hb : b.isNaN = false) : a ≤ b ∨ b ≤ a := by
  simp only [le_iff_place, ha, hb, true_and]
  exact le_total _ _

theorem float_le_of_lt (h : a < b) : a ≤ b := by
  obtain ⟨ha, hb, hlt⟩ := lt_iff_place.1 h
  exact le_iff_place.2 ⟨ha, hb, hlt.le⟩

theorem float_le_of_not_lt (ha : a.isNaN = false) (hb : b.isNaN = false) (h : ¬ b < a) : a ≤ b := by
  rw [lt_iff_place] at h
  exact le_iff_place.2 ⟨ha, hb, not_lt.1 fun hlt ↦ h ⟨hb, ha, hlt⟩⟩

theorem lesser_le_iff (ha : a.isNaN = false) (hb : b.isNaN = false) :
    lesser a b ≤ x ↔ a ≤ x ∨ b ≤ x := by
  simp only [lesser, ha, Bool.false_eq_true, false_or]
  split
  · rename_i hlt
    exact ⟨.inr, fun h ↦ h.elim (float_le_trans (float_le_of_lt hlt)) id⟩
  · rename_i hle
    exact ⟨.inl, fun h ↦ h.elim id (float_le_trans (float_le_of_not_lt ha hb hle))⟩

theorem le_greater_iff (ha : a.isNaN = false) (hb : b.isNaN = false) :
    x ≤ greater a b ↔ x ≤ a ∨ x ≤ b := by
  simp only [greater, ha, Bool.false_eq_true, false_or]
  split
  · rename_i hlt
    exact ⟨.inr, fun h ↦ h.elim (float_le_trans · (float_le_of_lt hlt)) id⟩
  · rename_i hle
    exact ⟨.inl, fun h ↦ h.elim id (float_le_trans · (float_le_of_not_lt hb ha hle))⟩

def Between (a b x : Float32) : Prop := a ≤ x ∧ x ≤ b ∨ b ≤ x ∧ x ≤ a

instance : Decidable (Between a b x) := inferInstanceAs (Decidable (_ ∨ _))

theorem between_comm : Between a b x ↔ Between b a x := or_comm

theorem Between.numbers (h : Between a b x) : a.isNaN = false ∧ b.isNaN = false := by
  rcases h with ⟨hlow, hhigh⟩ | ⟨hlow, hhigh⟩
  · exact ⟨(le_iff_place.1 hlow).1, (le_iff_place.1 hhigh).2.1⟩
  · exact ⟨(le_iff_place.1 hhigh).2.1, (le_iff_place.1 hlow).1⟩

theorem between_iff (ha : a.isNaN = false) (hb : b.isNaN = false) :
    Between a b x ↔ (a ≤ x ∨ b ≤ x) ∧ (x ≤ a ∨ x ≤ b) := by
  constructor
  · rintro (⟨hlow, hhigh⟩ | ⟨hlow, hhigh⟩)
    · exact ⟨.inl hlow, .inr hhigh⟩
    · exact ⟨.inr hlow, .inl hhigh⟩
  · rintro ⟨hlow, hhigh⟩
    have hx : x.isNaN = false := hlow.elim (fun h ↦ (le_iff_place.1 h).2.1) fun h ↦
      (le_iff_place.1 h).2.1
    rcases hlow with hlow | hlow <;> rcases hhigh with hhigh | hhigh
    · exact (float_le_total hx hb).imp (⟨hlow, ·⟩) (⟨·, hhigh⟩)
    · exact .inl ⟨hlow, hhigh⟩
    · exact .inr ⟨hlow, hhigh⟩
    · exact (float_le_total ha hx).imp (⟨·, hhigh⟩) (⟨hlow, ·⟩)

theorem Between.trans {a' b' : Float32} (ha : Between a' b' a) (hb : Between a' b' b)
    (hx : Between a b x) : Between a' b' x := by
  obtain ⟨ha', hb'⟩ := ha.numbers
  obtain ⟨hlow, hhigh⟩ := (between_iff hx.numbers.1 hx.numbers.2).1 hx
  rw [between_iff ha' hb'] at ha hb ⊢
  constructor
  · rcases hlow with hlow | hlow
    · exact ha.1.imp (float_le_trans · hlow) (float_le_trans · hlow)
    · exact hb.1.imp (float_le_trans · hlow) (float_le_trans · hlow)
  · rcases hhigh with hhigh | hhigh
    · exact ha.2.imp (float_le_trans hhigh) (float_le_trans hhigh)
    · exact hb.2.imp (float_le_trans hhigh) (float_le_trans hhigh)

end Number

open Number

namespace Point

structure IsNumber (p : Point) : Prop where
  x : p.x.isNaN = false
  y : p.y.isNaN = false

instance (p : Point) : Decidable p.IsNumber :=
  decidable_of_iff (p.x.isNaN = false ∧ p.y.isNaN = false) ⟨fun h ↦ ⟨h.1, h.2⟩, fun h ↦ ⟨h.x, h.y⟩⟩

structure Inside (p a b : Point) : Prop where
  x : Between a.x b.x p.x
  y : Between a.y b.y p.y

variable {p a b : Point}

theorem inside_iff : p.Inside a b ↔ Between a.x b.x p.x ∧ Between a.y b.y p.y :=
  ⟨fun h ↦ ⟨h.x, h.y⟩, fun h ↦ ⟨h.1, h.2⟩⟩

instance : Decidable (p.Inside a b) := decidable_of_iff' _ inside_iff

theorem Inside.numbers (h : p.Inside a b) : a.IsNumber ∧ b.IsNumber :=
  ⟨⟨h.x.numbers.1, h.y.numbers.1⟩, ⟨h.x.numbers.2, h.y.numbers.2⟩⟩

theorem Inside.trans {a' b' : Point} (ha : a.Inside a' b') (hb : b.Inside a' b')
    (hp : p.Inside a b) : p.Inside a' b' :=
  ⟨ha.x.trans hb.x hp.x, ha.y.trans hb.y hp.y⟩

end Point

theorem Rect.contains_spanning_iff {a b p : Point} (ha : a.IsNumber) (hb : b.IsNumber) :
    (Rect.spanning a b).contains p = true ↔ p.Inside a b := by
  have hx := between_iff (x := p.x) ha.x hb.x
  have hy := between_iff (x := p.y) ha.y hb.y
  rw [← lesser_le_iff ha.x hb.x, ← le_greater_iff ha.x hb.x] at hx
  rw [← lesser_le_iff ha.y hb.y, ← le_greater_iff ha.y hb.y] at hy
  simp only [contains, Bool.and_eq_true, decide_eq_true_eq]
  constructor
  · rintro ⟨⟨⟨hleft, hright⟩, htop⟩, hbottom⟩
    exact ⟨hx.2 ⟨hleft, hright⟩, hy.2 ⟨htop, hbottom⟩⟩
  · intro h
    obtain ⟨hleft, hright⟩ := hx.1 h.x
    obtain ⟨htop, hbottom⟩ := hy.1 h.y
    exact ⟨⟨⟨hleft, hright⟩, htop⟩, hbottom⟩

end PipelineGraph
