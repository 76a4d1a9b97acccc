import ShellyMultiplexer.Foundation.Clamp

/-! # Moving averages

An average that takes in a fixed part of each new value comes closer to the range of the values by
that part every time, wherever it starts.
-/
namespace Foundation
variable {K : Type*} [Field K] [LinearOrder K] [IsStrictOrderedRing K] {lo hi x y : K}

/-- How far a value lies outside the range. -/
def beyond (lo hi x : K) : K := max 0 (max (lo - x) (x - hi))

omit [IsStrictOrderedRing K] in
theorem beyond_nonneg (lo hi x : K) : 0 ≤ beyond lo hi x := le_max_left _ _

theorem beyond_of_mem (hl : lo ≤ x) (hh : x ≤ hi) : beyond lo hi x = 0 :=
  max_eq_left (max_le (sub_nonpos.mpr hl) (sub_nonpos.mpr hh))

omit [IsStrictOrderedRing K] in
theorem below_le_beyond (lo hi x : K) : lo - x ≤ beyond lo hi x :=
  (le_max_left _ _).trans (le_max_right _ _)

omit [IsStrictOrderedRing K] in
theorem above_le_beyond (lo hi x : K) : x - hi ≤ beyond lo hi x :=
  (le_max_right _ _).trans (le_max_right _ _)

/-- A new value from the range takes the average nearer to it. -/
theorem beyond_blend_le {part : K} (h0 : 0 ≤ part) (h1 : part ≤ 1) (hl : lo ≤ y) (hh : y ≤ hi) :
    beyond lo hi (part * y + (1 - part) * x) ≤ (1 - part) * beyond lo hi x := by
  have hrest : 0 ≤ 1 - part := sub_nonneg.mpr h1
  refine max_le (mul_nonneg hrest (beyond_nonneg lo hi x)) (max_le ?_ ?_)
  · calc lo - (part * y + (1 - part) * x) = part * (lo - y) + (1 - part) * (lo - x) := by ring
      _ ≤ (1 - part) * (lo - x) :=
          add_le_of_nonpos_left (mul_nonpos_of_nonneg_of_nonpos h0 (sub_nonpos.mpr hl))
      _ ≤ (1 - part) * beyond lo hi x := mul_le_mul_of_nonneg_left (below_le_beyond lo hi x) hrest
  · calc part * y + (1 - part) * x - hi = part * (y - hi) + (1 - part) * (x - hi) := by ring
      _ ≤ (1 - part) * (x - hi) :=
          add_le_of_nonpos_left (mul_nonpos_of_nonneg_of_nonpos h0 (sub_nonpos.mpr hh))
      _ ≤ (1 - part) * beyond lo hi x := mul_le_mul_of_nonneg_left (above_le_beyond lo hi x) hrest

/-- A clamp that leaves the range alone takes no value of the range further off. -/
theorem abs_clampTo_sub_le {least most : K} (hleast : least ≤ lo) (hmost : hi ≤ most) (hl : lo ≤ y)
    (hh : y ≤ hi) (x : K) : |clampTo least most x - y| ≤ hi - lo + beyond lo hi x := by
  have hbelow := below_le_beyond lo hi x
  have habove := above_le_beyond lo hi x
  have hpos := beyond_nonneg lo hi x
  have hup : clampTo least most x ≤ max lo x := max_le_max hleast (min_le_left _ _)
  have hdown : min x hi ≤ clampTo least most x :=
    (min_le_min le_rfl hmost).trans (le_max_right _ _)
  rw [abs_le]
  constructor
  · rcases min_choice x hi with hm | hm <;> rw [hm] at hdown <;> linarith
  · rcases max_choice lo x with hm | hm <;> rw [hm] at hup <;> linarith

end Foundation
