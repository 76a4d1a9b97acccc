import Mathlib.Algebra.Order.Field.Basic
import Mathlib.Algebra.Order.Floor.Ring
import Mathlib.Algebra.Order.Group.MinMax
import Mathlib.Algebra.Order.Ring.Abs
import Mathlib.Tactic.Linarith
import Mathlib.Tactic.Ring

/-! # Clamping, ramp limits and proportional scaling

Elementary facts about three ways of shaping a signed quantity: clamping it into a window, limiting
its distance from a measured value, and scaling it so that a total respects a cap.
-/
namespace Foundation
variable {K : Type*} [Field K] [LinearOrder K] [IsStrictOrderedRing K]

def clampTo (lo hi x : K) : K := max lo (min x hi)

omit [Field K] [IsStrictOrderedRing K] in
theorem le_clampTo (lo hi x : K) : lo ≤ clampTo lo hi x := le_max_left _ _

omit [Field K] [IsStrictOrderedRing K] in
theorem clampTo_le {lo hi : K} (h : lo ≤ hi) (x : K) : clampTo lo hi x ≤ hi :=
  max_le h (min_le_right _ _)

omit [Field K] [IsStrictOrderedRing K] in
theorem clampTo_eq_self {lo hi x : K} (hl : lo ≤ x) (hh : x ≤ hi) : clampTo lo hi x = x := by
  rw [clampTo, min_eq_left hh, max_eq_right hl]

omit [Field K] [IsStrictOrderedRing K] in
theorem clampTo_eq_ite (lo hi x : K) (h : lo ≤ hi) :
    clampTo lo hi x = if x < lo then lo else if hi < x then hi else x := by
  unfold clampTo
  split
  · rename_i hx
    rw [min_eq_left (hx.le.trans h), max_eq_left hx.le]
  · rename_i hx
    split
    · rename_i hy
      rw [min_eq_right hy.le, max_eq_right h]
    · rename_i hy
      rw [min_eq_left (not_lt.mp hy), max_eq_right (not_lt.mp hx)]

omit [IsStrictOrderedRing K] in
/-- A clamped value is positive exactly when its window reaches above zero and either the value
does too or the whole window does. -/
theorem clampTo_pos_iff (lo hi x : K) :
    0 < clampTo lo hi x ↔ 0 < lo ∨ (0 < x ∧ 0 < hi) := by
  rw [clampTo, lt_max_iff, lt_min_iff]

omit [IsStrictOrderedRing K] in
theorem clampTo_neg_iff {lo hi : K} (h : lo ≤ hi) (x : K) :
    clampTo lo hi x < 0 ↔ hi < 0 ∨ (x < 0 ∧ lo < 0) := by
  rw [clampTo, max_lt_iff, min_lt_iff]
  constructor
  · rintro ⟨hl,hx | hh⟩
    · exact Or.inr ⟨hx,hl⟩
    · exact Or.inl hh
  · rintro (hh | ⟨hx,hl⟩)
    · exact ⟨h.trans_lt hh,Or.inr hh⟩
    · exact ⟨hl,Or.inl hx⟩

omit [IsStrictOrderedRing K] in
theorem clampTo_nonneg {lo hi x : K} (hx : 0 ≤ x) (hh : 0 ≤ hi) : 0 ≤ clampTo lo hi x :=
  (le_min hx hh).trans (le_max_right _ _)

omit [IsStrictOrderedRing K] in
theorem clampTo_nonpos {lo hi x : K} (hl : lo ≤ 0) (hx : x ≤ 0) : clampTo lo hi x ≤ 0 :=
  max_le hl ((min_le_left _ _).trans hx)

omit [IsStrictOrderedRing K] in
/-- Clamping a non-negative value into a window that holds zero only lowers it. -/
theorem clampTo_le_self {lo hi x : K} (hl : lo ≤ 0) (hx : 0 ≤ x) : clampTo lo hi x ≤ x :=
  max_le (hl.trans hx) (min_le_left _ _)

theorem abs_clampTo_le_abs {lo hi : K} (hl : lo ≤ 0) (hh : 0 ≤ hi) (x : K) :
    |clampTo lo hi x| ≤ |x| := by
  rcases le_total 0 x with hx | hx
  · rw [abs_of_nonneg (clampTo_nonneg hx hh), abs_of_nonneg hx]
    exact clampTo_le_self hl hx
  · rw [abs_of_nonpos (clampTo_nonpos hl hx), abs_of_nonpos hx]
    exact neg_le_neg ((le_min le_rfl (hx.trans hh)).trans (le_max_right _ _))

/-- A value that exceeds a threshold still does after clamping exactly when the window reaches as
far on its side. -/
theorem le_abs_clampTo_iff {lo hi m x : K} (hl : lo ≤ 0) (hh : 0 ≤ hi) (hm : m ≤ |x|) :
    m ≤ |clampTo lo hi x| ↔ if x < 0 then lo ≤ -m else m ≤ hi := by
  split
  · rename_i hx
    rw [abs_of_neg hx] at hm
    rw [abs_of_nonpos (clampTo_nonpos hl hx.le), clampTo, min_eq_left (hx.le.trans hh), le_neg,
      max_le_iff]
    exact and_iff_left (le_neg.mp hm)
  · rename_i hx
    have hx := not_lt.mp hx
    rw [abs_of_nonneg hx] at hm
    rw [abs_of_nonneg (clampTo_nonneg hx hh), clampTo, max_eq_right (hl.trans (le_min hx hh)),
      le_min_iff]
    exact and_iff_right hm

theorem clampTo_neg (lo hi x : K) (h : lo ≤ hi) :
    clampTo (-hi) (-lo) (-x) = -clampTo lo hi x := by
  rw [clampTo_eq_ite _ _ _ (neg_le_neg h), clampTo_eq_ite _ _ _ h]
  simp only [neg_lt_neg_iff]
  split
  · rename_i hx
    rw [if_neg (not_lt.mpr (h.trans hx.le))]
  · split <;> rfl

/-- Move from `base` toward `goal` by at most `step`. -/
def rampTo (step base goal : K) : K := base + clampTo (-step) step (goal - base)

theorem rampTo_eq_clampTo (step base goal : K) :
    rampTo step base goal = clampTo (base - step) (base + step) goal := by
  rw [rampTo, clampTo, clampTo, ← max_add_add_left, ← min_add_add_left]
  ring_nf

theorem rampTo_mono (step base : K) {goal goal' : K} (h : goal ≤ goal') :
    rampTo step base goal ≤ rampTo step base goal' := by
  rw [rampTo_eq_clampTo, rampTo_eq_clampTo]
  exact max_le_max le_rfl (min_le_min h le_rfl)

theorem rampTo_zero {step base : K} (h : -step ≤ base) :
    rampTo step base 0 = max (base - step) 0 := by
  rw [rampTo_eq_clampTo, clampTo, min_eq_left (neg_le_iff_add_nonneg.mp h)]

theorem rampTo_zero_of_lt {step base : K} (hs : 0 ≤ step) (h : base < -step) :
    rampTo step base 0 = base + step := by
  rw [rampTo_eq_clampTo, clampTo, min_eq_right (by linarith), max_eq_right (by linarith)]

theorem rampTo_pos_iff (step base goal : K) :
    0 < rampTo step base goal ↔ step < base ∨ (0 < goal ∧ -step < base) := by
  rw [rampTo_eq_clampTo, clampTo_pos_iff, sub_pos, ← neg_lt_iff_pos_add]

theorem rampTo_neg_iff {step : K} (h : 0 ≤ step) (base goal : K) :
    rampTo step base goal < 0 ↔ base < -step ∨ (goal < 0 ∧ base < step) := by
  rw [rampTo_eq_clampTo, clampTo_neg_iff (by linarith), sub_neg, ← lt_neg_iff_add_neg]

/-- A ramp toward a goal inside a window keeps the window exactly when its base lies within one
step of it. -/
theorem rampTo_mem_iff {step base goal lo hi : K} (hs : 0 ≤ step) (hl : lo ≤ goal)
    (hh : goal ≤ hi) : (lo ≤ rampTo step base goal ∧ rampTo step base goal ≤ hi) ↔
      (lo - step ≤ base ∧ base ≤ hi + step) := by
  have hwin : base - step ≤ base + step := by linarith
  rw [rampTo_eq_clampTo]
  constructor
  · rintro ⟨hlo,hhi⟩
    have h1 := le_clampTo (base - step) (base + step) goal
    have h2 := clampTo_le hwin goal
    exact ⟨by linarith,by linarith⟩
  · rintro ⟨hbl,hbh⟩
    refine ⟨(le_min hl (by linarith)).trans (le_max_right _ _),max_le (by linarith) ?_⟩
    exact (min_le_left _ _).trans hh

/-- The common factor that brings a total of size `worst` under `cap`. -/
def capFactor (cap worst : K) : K := if cap < worst then cap / worst else 1

theorem capFactor_nonneg {cap : K} (h : 0 ≤ cap) (worst : K) : 0 ≤ capFactor cap worst := by
  unfold capFactor
  split
  · rename_i hw
    exact div_nonneg h (h.trans hw.le)
  · exact zero_le_one

theorem capFactor_le_one {cap : K} (h : 0 ≤ cap) (worst : K) : capFactor cap worst ≤ 1 := by
  unfold capFactor
  split
  · rename_i hw
    exact (div_le_one (h.trans_lt hw)).mpr hw.le
  · exact le_rfl

theorem capFactor_eq_min {cap worst : K} (h : 0 < worst) :
    capFactor cap worst = min 1 (cap / worst) := by
  unfold capFactor
  split
  · rename_i hw
    exact (min_eq_right ((div_le_one h).mpr hw.le)).symm
  · rename_i hw
    exact (min_eq_left ((one_le_div h).mpr (not_lt.mp hw))).symm

theorem capFactor_pos_iff {cap worst : K} (h : 0 ≤ cap) :
    0 < capFactor cap worst ↔ 0 < cap ∨ worst ≤ 0 := by
  unfold capFactor
  split
  · rename_i hw
    rw [div_pos_iff_of_pos_right (h.trans_lt hw)]
    exact ⟨Or.inl,fun hc => hc.resolve_right (not_le.mpr (h.trans_lt hw))⟩
  · rename_i hw
    refine iff_of_true one_pos ?_
    rcases h.lt_or_eq with hc | hc
    · exact Or.inl hc
    · exact Or.inr (hc ▸ not_lt.mp hw)

theorem abs_capFactor_mul_le {cap worst x : K} (h : 0 ≤ cap) (hx : |x| ≤ worst) :
    |capFactor cap worst * x| ≤ cap := by
  rw [abs_mul, abs_of_nonneg (capFactor_nonneg h worst)]
  unfold capFactor
  split
  · rename_i hw
    have hpos := h.trans_lt hw
    calc cap / worst * |x| ≤ cap / worst * worst :=
          mul_le_mul_of_nonneg_left hx (div_nonneg h hpos.le)
      _ = cap := div_mul_cancel₀ cap hpos.ne'
  · rename_i hw
    rw [one_mul]
    exact hx.trans (not_lt.mp hw)

/-- Where the factor engages, it brings a total strictly below the cap exactly when the total is not
what it is measured by. -/
theorem abs_capFactor_mul_lt_iff {cap worst x : K} (h : 0 < cap) (hw : cap < worst) :
    |capFactor cap worst * x| < cap ↔ |x| < worst := by
  have hpos := h.trans hw
  rw [capFactor, if_pos hw, abs_mul, abs_of_pos (div_pos h hpos), div_mul_eq_mul_div,
    div_lt_iff₀ hpos, mul_lt_mul_iff_right₀ h]

theorem capFactor_anti {cap worst worst' : K} (h : 0 ≤ cap) (hw : worst ≤ worst') :
    capFactor cap worst' ≤ capFactor cap worst := by
  rcases lt_or_ge cap worst with hlt | hle
  · rw [capFactor, if_pos (hlt.trans_le hw), capFactor, if_pos hlt]
    exact div_le_div_of_nonneg_left h (h.trans_lt hlt) hw
  · rw [capFactor.eq_1 cap worst, if_neg (not_lt.mpr hle)]
    exact capFactor_le_one h _

omit [IsStrictOrderedRing K] in
theorem capFactor_max_cap (cap worst : K) : capFactor cap (max cap worst) = capFactor cap worst := by
  unfold capFactor
  by_cases h : cap < worst
  · rw [max_eq_right h.le]
  · rw [max_eq_left (not_lt.mp h), if_neg (lt_irrefl _), if_neg h]

/-- A part that grows is not scaled below what it was, though it adds to the total itself; less of
the rest only helps. -/
theorem capFactor_mul_le {cap other rest rest' x y : K} (h : 0 ≤ cap) (hrest : 0 ≤ rest')
    (hle : rest' ≤ rest) (hx : 0 ≤ x) (hxy : x ≤ y) :
    capFactor cap (max (x + rest) other) * x ≤ capFactor cap (max (y + rest') other) * y := by
  have hcross : x * max (y + rest) other ≤ y * max (x + rest) other := by
    rw [mul_max_of_nonneg _ _ hx, mul_max_of_nonneg _ _ (hx.trans hxy)]
    have hshare : x * rest ≤ y * rest := mul_le_mul_of_nonneg_right hxy (hrest.trans hle)
    refine max_le (le_max_of_le_left (by linarith [mul_comm x y])) ?_
    rcases le_or_gt 0 other with ho | ho
    · exact le_max_of_le_right (mul_le_mul_of_nonneg_right hxy ho)
    · exact le_max_of_le_left ((mul_nonpos_of_nonneg_of_nonpos hx ho.le).trans
        (mul_nonneg (hx.trans hxy) (add_nonneg hx (hrest.trans hle))))
  refine le_trans ?_ (mul_le_mul_of_nonneg_right
    (capFactor_anti h (max_le_max (add_le_add_right hle y) le_rfl)) (hx.trans hxy))
  rcases lt_or_ge cap (max (x + rest) other) with hlt | hge
  · have hgrown := hlt.trans_le (max_le_max (add_le_add_left hxy rest) (le_refl other))
    rw [capFactor, if_pos hlt, capFactor, if_pos hgrown, div_mul_eq_mul_div, div_mul_eq_mul_div,
      div_le_div_iff₀ (h.trans_lt hlt) (h.trans_lt hgrown), mul_assoc, mul_assoc]
    exact mul_le_mul_of_nonneg_left hcross h
  · rw [capFactor, if_neg (not_lt.mpr hge), one_mul, capFactor]
    split
    · rename_i hgrown
      rw [div_mul_eq_mul_div, le_div_iff₀ (h.trans_lt hgrown), mul_comm cap]
      exact hcross.trans (mul_le_mul_of_nonneg_left hge (hx.trans hxy))
    · rwa [one_mul]

/-- While the other quantity stays under the cap, the common factor clamps the total. -/
theorem capFactor_mul_eq_clampTo {cap other x : K} (h : 0 ≤ cap) (ho : other ≤ cap) :
    capFactor cap (max |x| other) * x = clampTo (-cap) cap x := by
  unfold capFactor
  split
  · rename_i hw
    have hx : cap < |x| := (lt_max_iff.mp hw).resolve_right (not_lt.mpr ho)
    rw [max_eq_left (ho.trans hx.le)]
    rcases lt_abs.mp hx with hpos | hneg
    · have hx0 : 0 < x := h.trans_lt hpos
      rw [abs_of_pos hx0, div_mul_cancel₀ cap hx0.ne', clampTo, min_eq_right hpos.le,
        max_eq_right (neg_le_self h)]
    · have hx0 : x < 0 := neg_pos.mp (h.trans_lt hneg)
      rw [abs_of_neg hx0, div_neg, neg_mul, div_mul_cancel₀ cap hx0.ne, clampTo,
        min_eq_left (hx0.le.trans h), max_eq_left (le_neg_of_le_neg hneg.le)]
  · rename_i hw
    have hx : |x| ≤ cap := (le_max_left _ _).trans (not_lt.mp hw)
    rw [one_mul, clampTo_eq_self (neg_le_of_abs_le hx) (le_of_abs_le hx)]

/-- A step scaled by the part of it, between none and all, that leads to a goal ends at the point of
its way that lies next to the goal. -/
theorem add_clampTo_mul (base goal : K) {step : K} (h : step ≠ 0) :
    base + clampTo 0 1 ((goal - base) / step) * step =
      clampTo (min base (base + step)) (max base (base + step)) goal := by
  rcases h.lt_or_gt with hn | hp
  · have hle : base + step ≤ base := add_le_of_nonpos_right hn.le
    have hflip : Antitone (fun x : K => x * step) := antitone_mul_right hn.le
    have hmax : ∀ x y, max x y * step = min (x * step) (y * step) := fun _ _ => hflip.map_max
    have hmin : ∀ x y, min x y * step = max (x * step) (y * step) := fun _ _ => hflip.map_min
    rw [clampTo, hmax, hmin, zero_mul, one_mul,
      div_mul_cancel₀ _ h, ← min_add_add_left, ← max_add_add_left, add_zero, add_sub_cancel,
      min_eq_right hle, max_eq_left hle, clampTo, max_min_distrib_left, max_eq_right hle,
      max_comm goal, min_comm]
  · have hle : base ≤ base + step := le_add_of_nonneg_right hp.le
    rw [clampTo, max_mul_of_nonneg _ _ hp.le, min_mul_of_nonneg _ _ hp.le, zero_mul, one_mul,
      div_mul_cancel₀ _ h, ← max_add_add_left, ← min_add_add_left, add_zero, add_sub_cancel,
      min_eq_left hle, max_eq_right hle, clampTo]

/-- A step that overshoots a cap ends at the cap, at its start, or where it was going, whichever of
them is nearest to zero. -/
theorem abs_clampTo_way_le {cap base step : K} (h : 0 ≤ cap) (ho : cap < |base + step|) :
    |clampTo (min base (base + step)) (max base (base + step))
        (if 0 ≤ base + step then cap else -cap)| ≤ min (max cap |base|) |base + step| := by
  generalize base + step = post at ho ⊢
  split
  · rename_i hp
    rw [abs_of_nonneg hp] at ho ⊢
    have hway : clampTo (min base post) (max base post) cap = max (min base post) cap := by
      rw [clampTo, min_eq_left (ho.le.trans (le_max_right _ _))]
    rw [hway, abs_of_nonneg (h.trans (le_max_right _ _))]
    refine max_le (le_min ?_ (min_le_right _ _)) (le_min (le_max_left _ _) ho.le)
    exact (min_le_left _ _).trans ((le_abs_self _).trans (le_max_right _ _))
  · rename_i hn
    have hn := not_le.mp hn
    rw [abs_of_neg hn] at ho ⊢
    have hle : max (min base post) (-cap) = -cap :=
      max_eq_right ((min_le_right _ _).trans (by linarith))
    have hway : clampTo (min base post) (max base post) (-cap) = min (max base post) (-cap) := by
      rw [clampTo, max_min_distrib_left, hle, max_eq_right (min_le_max), min_comm, min_comm]
    rw [hway, abs_of_nonpos ((min_le_right _ _).trans (neg_nonpos.mpr h)), ← max_neg_neg, neg_neg]
    refine max_le (le_min ?_ ?_) (le_min (le_max_left _ _) ho.le)
    · exact (neg_le_neg (le_max_left _ _)).trans ((neg_le_abs _).trans (le_max_right _ _))
    · exact neg_le_neg (le_max_right _ _)

/-- Scaling down by a factor in `[0, 1]` keeps a window that contains zero. -/
theorem mul_mem_window {s x lo hi : K} (hs : 0 ≤ s) (hs1 : s ≤ 1) (hlo : lo ≤ 0) (hhi : 0 ≤ hi)
    (hl : lo ≤ x) (hh : x ≤ hi) : lo ≤ s * x ∧ s * x ≤ hi := by
  constructor <;> nlinarith

/-! ## Whole numbers within a window -/

section Whole
variable [FloorRing K] {lo : ℤ} {hi : K}

omit [IsStrictOrderedRing K] in
theorem le_floor_clampTo (lo : ℤ) (hi x : K) : lo ≤ ⌊clampTo (lo : K) hi x⌋ :=
  Int.le_floor.mpr (le_clampTo _ _ x)

omit [IsStrictOrderedRing K] in
theorem floor_clampTo_le (h : (lo : K) ≤ hi) (x : K) : (⌊clampTo (lo : K) hi x⌋ : K) ≤ hi :=
  (Int.floor_le _).trans (clampTo_le h x)

/-- A value that was clamped and truncated once comes back as it is. -/
theorem floor_clampTo_idem (h : (lo : K) ≤ hi) (x : K) :
    ⌊clampTo (lo : K) hi (⌊clampTo (lo : K) hi x⌋ : K)⌋ = ⌊clampTo (lo : K) hi x⌋ := by
  have hlo : (lo : K) ≤ ⌊clampTo (lo : K) hi x⌋ := by exact_mod_cast le_floor_clampTo lo hi x
  rw [clampTo_eq_self hlo (floor_clampTo_le h x), Int.floor_intCast]

end Whole

end Foundation
