import ShellyMultiplexer.Model.Config

/-! # Setpoints

A setpoint is a direction with a power in whole watts. A signed power is mapped onto it by way of
the firmware minimum, the battery's own limit and the hard limit of the firmware.
-/
namespace ShellyMultiplexer
open Foundation

inductive Setpoint
  | standby
  | charge (watts : UInt16)
  | discharge (watts : UInt16)
  deriving DecidableEq

namespace Setpoint

def hardMaxW : ℚ := 2500

/-- The two clamps panic when a limit lies below the firmware minimum. -/
def fromSignedWatts (w maxCharge maxDischarge : ℚ) : Option Setpoint :=
  if |w| < marstekMinW then some standby
  else if w < 0 then
    (f64Clamp (-w) marstekMinW (min maxCharge hardMaxW)).map (fun x => charge (toU16 x))
  else (f64Clamp w marstekMinW (min maxDischarge hardMaxW)).map (fun x => discharge (toU16 x))

def toSignedWatts : Setpoint → ℚ
  | standby => 0
  | charge watts => -(watts.toNat : ℚ)
  | discharge watts => (watts.toNat : ℚ)

end Setpoint

/-- Subtract the smoothed overhead from a target that points the same way. -/
def applyOverheadCompensation (target overheadRaw : ℚ) : ℚ :=
  let overhead := clampTo (-200) 200 overheadRaw
  if signum overhead = signum target then target - overhead else target

/-! ## The range of a setpoint -/

variable {w maxCharge maxDischarge : ℚ} {sp : Setpoint}

namespace Setpoint

theorem marstekMinW_le_hardMaxW : marstekMinW ≤ hardMaxW := by norm_num [marstekMinW,hardMaxW]

theorem fromSignedWatts_small (h : |w| < marstekMinW) :
    fromSignedWatts w maxCharge maxDischarge = some standby := if_pos h

theorem fromSignedWatts_eq_standby_iff :
    fromSignedWatts w maxCharge maxDischarge = some standby ↔ |w| < marstekMinW := by
  unfold fromSignedWatts
  split
  · simp [*]
  · split
    · simp [*]
    · simp [*]

/-- The mapping panics exactly when the commanded direction has a limit below the minimum. -/
theorem fromSignedWatts_eq_none_iff :
    fromSignedWatts w maxCharge maxDischarge = none ↔
      (w ≤ -marstekMinW ∧ maxCharge < marstekMinW) ∨
      (marstekMinW ≤ w ∧ maxDischarge < marstekMinW) := by
  have hm := marstekMinW_pos
  have hlim : ∀ x : ℚ, min x hardMaxW < marstekMinW ↔ x < marstekMinW := by
    intro x
    rw [min_lt_iff, or_iff_left (not_lt.mpr marstekMinW_le_hardMaxW)]
  unfold fromSignedWatts
  split
  · rename_i hw
    obtain ⟨hl,hu⟩ := abs_lt.mp hw
    simp only [reduceCtorEq, false_iff, not_or, not_and]
    exact ⟨fun h => absurd h (not_le.mpr hl),fun h => absurd h (not_le.mpr hu)⟩
  · rename_i hw
    split
    · rename_i hneg
      have habs : w ≤ -marstekMinW := by
        rw [abs_of_neg hneg] at hw
        linarith [not_lt.mp hw]
      have hno : ¬ marstekMinW ≤ w := by linarith
      simp only [Option.map_eq_none_iff, f64Clamp_eq_none_iff, hlim, habs, hno, true_and, false_and,
        or_false]
    · rename_i hpos
      have habs : marstekMinW ≤ w := by
        rw [abs_of_nonneg (not_lt.mp hpos)] at hw
        exact not_lt.mp hw
      have hno : ¬ w ≤ -marstekMinW := by linarith
      simp only [Option.map_eq_none_iff, f64Clamp_eq_none_iff, hlim, habs, hno, true_and, false_and,
        false_or]

/-- The two clamps and the truncation only take away from the magnitude. -/
theorem command_le {x limit : ℚ} {command : UInt16 → Setpoint}
    (h : (f64Clamp x marstekMinW (min limit hardMaxW)).map (fun y => command (toU16 y)) = some sp)
    (hx : marstekMinW ≤ x) :
    ∃ watts, sp = command watts ∧ (watts.toNat : ℚ) ≤ x ∧ (watts.toNat : ℚ) ≤ limit := by
  have hm := marstekMinW_pos
  obtain ⟨y,hy,rfl⟩ := Option.map_eq_some_iff.mp h
  have hwin : marstekMinW ≤ min limit hardMaxW := by
    by_contra hlt
    rw [f64Clamp_eq_none_iff.mpr (not_le.mp hlt)] at hy
    cases hy
  rw [f64Clamp_eq_some hwin] at hy
  cases hy
  have hup := clampTo_le hwin x
  have hle : clampTo marstekMinW (min limit hardMaxW) x ≤ x := max_le hx (min_le_left _ _)
  have hhard : (hardMaxW : ℚ) ≤ 65535 := by norm_num [hardMaxW]
  have hu := toU16_le (hm.le.trans (le_clampTo _ _ x)) ((hup.trans (min_le_right _ _)).trans hhard)
  exact ⟨_,rfl,hu.trans hle,hu.trans (hup.trans (min_le_left _ _))⟩

/-- A command never exceeds the power it stands for, nor the limit of its direction. -/
theorem toSignedWatts_mem (hc : 0 ≤ maxCharge) (hd : 0 ≤ maxDischarge)
    (h : fromSignedWatts w maxCharge maxDischarge = some sp) :
    (-maxCharge ≤ sp.toSignedWatts ∧ sp.toSignedWatts ≤ maxDischarge) ∧
      (0 ≤ w → 0 ≤ sp.toSignedWatts ∧ sp.toSignedWatts ≤ w) ∧
      (w ≤ 0 → w ≤ sp.toSignedWatts ∧ sp.toSignedWatts ≤ 0) := by
  have hm := marstekMinW_pos
  unfold fromSignedWatts at h
  split at h
  · cases h
    exact ⟨⟨neg_nonpos.mpr hc,hd⟩,fun h => ⟨le_rfl,h⟩,fun h => ⟨h,le_rfl⟩⟩
  · rename_i hw
    split at h
    · rename_i hneg
      rw [abs_of_neg hneg] at hw
      obtain ⟨watts,rfl,hle,hlim⟩ := command_le h (not_lt.mp hw)
      have h0 : (0 : ℚ) ≤ watts.toNat := Nat.cast_nonneg _
      refine ⟨⟨neg_le_neg hlim,?_⟩,fun h => absurd hneg (not_lt.mpr h),fun _ => ⟨?_,?_⟩⟩
      · exact (neg_nonpos.mpr h0).trans hd
      · exact le_neg.mpr hle
      · exact neg_nonpos.mpr h0
    · rename_i hpos
      rw [abs_of_nonneg (not_lt.mp hpos)] at hw
      obtain ⟨watts,rfl,hle,hlim⟩ := command_le h (not_lt.mp hw)
      have h0 : (0 : ℚ) ≤ watts.toNat := Nat.cast_nonneg _
      refine ⟨⟨(neg_nonpos.mpr hc).trans h0,hlim⟩,fun _ => ⟨h0,hle⟩,fun h => ?_⟩
      exact absurd (not_lt.mp hw) (not_le.mpr (h.trans_lt hm))

/-! ## The whole watts of a command -/

/-- The magnitude that a power is truncated to. -/
def wholeWatts (limit x : ℚ) : ℤ := ⌊clampTo marstekMinW (min limit hardMaxW) x⌋

variable {limit : ℚ}

theorem marstekMinW_le_min (h : marstekMinW ≤ limit) : marstekMinW ≤ min limit hardMaxW :=
  le_min h marstekMinW_le_hardMaxW

theorem wholeWatts_mem (h : marstekMinW ≤ limit) (x : ℚ) :
    marstekMinW ≤ wholeWatts limit x ∧ (wholeWatts limit x : ℚ) ≤ min limit hardMaxW := by
  constructor
  · have hle := le_floor_clampTo 50 (min limit hardMaxW) x
    unfold wholeWatts marstekMinW
    exact_mod_cast hle
  · exact (Int.floor_le _).trans (clampTo_le (marstekMinW_le_min h) x)

theorem wholeWatts_mono (limit : ℚ) {x y : ℚ} (h : x ≤ y) :
    wholeWatts limit x ≤ wholeWatts limit y :=
  Int.floor_mono (max_le_max le_rfl (min_le_min h le_rfl))

theorem wholeWatts_idem (h : marstekMinW ≤ limit) (x : ℚ) :
    wholeWatts limit (wholeWatts limit x) = wholeWatts limit x := by
  have hle : ((50 : ℤ) : ℚ) ≤ min limit hardMaxW := by
    simpa [marstekMinW] using marstekMinW_le_min h
  have hidem := floor_clampTo_idem hle x
  simpa [wholeWatts,marstekMinW] using hidem

/-- Truncation takes less than a watt from the clamped power. -/
theorem abs_wholeWatts_sub_lt (limit x : ℚ) :
    |(wholeWatts limit x : ℚ) - clampTo marstekMinW (min limit hardMaxW) x| < 1 := by
  have hle := Int.floor_le (clampTo marstekMinW (min limit hardMaxW) x)
  have hlt := Int.lt_floor_add_one (clampTo marstekMinW (min limit hardMaxW) x)
  rw [wholeWatts, abs_lt]
  constructor <;> linarith

theorem toNat_command (h : marstekMinW ≤ limit) (x : ℚ) :
    ((toU16 (clampTo marstekMinW (min limit hardMaxW) x)).toNat : ℚ) = wholeWatts limit x := by
  have hm := marstekMinW_pos
  have hpos : 0 ≤ ⌊clampTo marstekMinW (min limit hardMaxW) x⌋ :=
    Int.floor_nonneg.mpr (hm.le.trans (le_clampTo _ _ x))
  have hup : clampTo marstekMinW (min limit hardMaxW) x ≤ 65535 :=
    (clampTo_le (marstekMinW_le_min h) x).trans
      ((min_le_right _ _).trans (by norm_num [hardMaxW]))
  rw [toNat_toU16 hup, wholeWatts]
  exact_mod_cast Int.toNat_of_nonneg hpos

theorem fromSignedWatts_of_le_neg (hc : marstekMinW ≤ maxCharge) (maxDischarge : ℚ)
    (hw : w ≤ -marstekMinW) :
    ∃ watts : UInt16, (watts.toNat : ℚ) = wholeWatts maxCharge (-w) ∧
      fromSignedWatts w maxCharge maxDischarge = some (charge watts) := by
  have hm := marstekMinW_pos
  have hneg : w < 0 := by linarith
  have habs : ¬ |w| < marstekMinW := by
    rw [abs_of_neg hneg]
    linarith
  refine ⟨_,toNat_command hc (-w),?_⟩
  rw [fromSignedWatts, if_neg habs, if_pos hneg, f64Clamp_eq_some (marstekMinW_le_min hc),
    Option.map_some]

theorem fromSignedWatts_of_le (hd : marstekMinW ≤ maxDischarge) (maxCharge : ℚ)
    (hw : marstekMinW ≤ w) :
    ∃ watts : UInt16, (watts.toNat : ℚ) = wholeWatts maxDischarge w ∧
      fromSignedWatts w maxCharge maxDischarge = some (discharge watts) := by
  have hm := marstekMinW_pos
  have hpos : ¬ w < 0 := by linarith
  have habs : ¬ |w| < marstekMinW := by
    rw [abs_of_nonneg (not_lt.mp hpos)]
    linarith
  refine ⟨_,toNat_command hd w,?_⟩
  rw [fromSignedWatts, if_neg habs, if_neg hpos, f64Clamp_eq_some (marstekMinW_le_min hd),
    Option.map_some]

/-- Below the minimum, or in one of the two directions. -/
theorem regimes (w : ℚ) : w ≤ -marstekMinW ∨ |w| < marstekMinW ∨ marstekMinW ≤ w := by
  rcases lt_or_ge |w| marstekMinW with hs | hl
  · exact .inr (.inl hs)
  · rcases le_abs.mp hl with hp | hn
    · exact .inr (.inr hp)
    · exact .inl (le_neg.mpr hn)

end Setpoint

/-! ## The compensated target -/

theorem applyOverheadCompensation_of_nonneg {target : ℚ} (h : 0 ≤ target) (overhead : ℚ) :
    applyOverheadCompensation target overhead = target - max (clampTo (-200) 200 overhead) 0 := by
  unfold applyOverheadCompensation
  dsimp only
  rw [signum_of_nonneg h]
  rcases le_or_gt 0 (clampTo (-200) 200 overhead) with ho | ho
  · rw [signum_of_nonneg ho, if_pos rfl, max_eq_left ho]
  · rw [signum_of_neg ho, if_neg (by norm_num), max_eq_right ho.le, sub_zero]

theorem applyOverheadCompensation_of_neg {target : ℚ} (h : target < 0) (overhead : ℚ) :
    applyOverheadCompensation target overhead = target - min (clampTo (-200) 200 overhead) 0 := by
  unfold applyOverheadCompensation
  dsimp only
  rw [signum_of_neg h]
  rcases le_or_gt 0 (clampTo (-200) 200 overhead) with ho | ho
  · rw [signum_of_nonneg ho, if_neg (by norm_num), min_eq_right ho, sub_zero]
  · rw [signum_of_neg ho, if_pos rfl, min_eq_left ho.le]

end ShellyMultiplexer
